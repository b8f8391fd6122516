import FrameGrabber.Transport
import FrameGrabber.Frame

/-!
# A source that plays a list

In place of a session, a playlist hands out frames and failures in the order in
which they were put down. At its end it is like a session that was closed.
Nothing on it takes any time, save what its listeners sleep.
-/

namespace FrameGrabber

/-- What is still to be played, and the time. -/
structure Playlist where
  entries : List (Except CameraError Frame) := []
  now : Instant := 0

namespace Playlist

def grab (_timeout : Span) : Call Playlist Frame := fun p =>
  match p.entries with
  | [] => (.error .sessionClosed, p)
  | e :: rest => (e, { p with entries := rest })

def clock : Clock Playlist where
  now p := (p.now, p)
  sleep span p := { p with now := p.now + span }
  patience span _ := span

end Playlist
end FrameGrabber
