import FrameGrabber.Span

/-!
# The rate over a sliding window

The window keeps the instants of the most recent frames and answers, at each
new one, how many frames a second they amount to. Instants that have grown as
old as the window are given up from the front; since each is compared with the
newest one only, nothing has to be sorted, and a clock that jumps back merely
delays the giving up.
-/

namespace FrameGrabber

/-- Instants of recent frames, the oldest first. -/
structure RateWindow where
  /-- How far back the window reaches. -/
  reach : Span
  stamps : List Instant := []
  deriving DecidableEq, Repr

namespace RateWindow

/-- A window of one second. -/
instance : Inhabited RateWindow := ⟨{ reach := Span.second }⟩

/-- Give up the instants at the front that are as old as the window. -/
def expire (w : RateWindow) (now : Instant) : RateWindow :=
  { w with stamps := w.stamps.dropWhile fun t => w.reach ≤ now - t }

def push (w : RateWindow) (now : Instant) : RateWindow :=
  { w with stamps := w.stamps ++ [now] }.expire now

/-- Frames and time between the first and the last kept instant; none when
there are fewer than two frames or no time between them. -/
def measured? (w : RateWindow) : Option (Nat × Span) :=
  match w.stamps.head?, w.stamps.getLast? with
  | some first, some last =>
    if 1 < w.stamps.length && 0 < last - first then
      some (w.stamps.length - 1, last - first)
    else none
  | _, _ => none

/-- The rate in frames a second, zero where nothing can be measured. -/
def rate (w : RateWindow) : Float :=
  match w.measured? with
  | some (frames, span) => frames.toFloat / span.seconds
  | none => 0.0

/-- Take in the instant of a frame; the rate is the one including it. -/
def tick (w : RateWindow) (now : Instant) : Float × RateWindow :=
  let next := w.push now
  (next.rate, next)

end RateWindow
end FrameGrabber
