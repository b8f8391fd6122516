import FrameGrabber.Span

/-!
# When a camera exposes

A camera exposes once at the start and then once per frame interval. Whoever
drives it wakes at instants of its own, perhaps late; a tick falls at the first
waking at or after its due time. The next one is due an interval after that
due time, so that small delays do not add up, unless the waking was late by more
than an interval: then the schedule starts over from the waking, and the camera
does not race to catch up.
-/

namespace FrameGrabber
namespace Schedule

/-- The due time after a tick that was due at `due` and fell at `now`. -/
def nextDue (interval : Span) (due now : Instant) : Instant :=
  if interval < now - due then now + interval else due + interval

/-- One waking at `now`. Before the first tick there is no due time, and the
tick falls at once. The answer says whether a tick falls, and when the next one
is due. -/
def wake (interval : Span) (due : Option Instant) (now : Instant) : Bool × Instant :=
  let at' := due.getD now
  if at' ≤ now then (true, nextDue interval at' now) else (false, at')

/-- The ticks of a whole sequence of wakings, each with its due time and the
instant at which it fell. -/
def ticks (interval : Span) : Option Instant → List Instant → List (Instant × Instant)
  | _, [] => []
  | due, now :: rest =>
    let (fell, next) := wake interval due now
    let later := ticks interval (some next) rest
    if fell then (due.getD now, now) :: later else later

end Schedule
end FrameGrabber
