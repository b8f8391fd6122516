import FrameGrabber.Frame

/-!
# A bounded ring of frames

One side pushes frames, the other takes them at its own pace. A full ring
refuses the new frame and keeps the old ones, so the writer never waits; the
reader either takes the oldest frame or skips straight to the newest.
-/

namespace FrameGrabber

/-- Frames waiting for their reader, the oldest first, and what has happened to
all the others. -/
structure FrameRing where
  capacity : Nat
  frames : List Frame := []
  written : Nat := 0
  read : Nat := 0
  dropped : Nat := 0
  deriving Repr

namespace FrameRing

/-- An empty ring. It holds one frame at least. -/
def new (capacity : Nat) : FrameRing := { capacity := max capacity 1 }

/-- Offer a frame. The answer says whether it was taken. -/
def push (r : FrameRing) (f : Frame) : Bool × FrameRing :=
  if r.frames.length < r.capacity then
    (true, { r with frames := r.frames ++ [f], written := r.written + 1 })
  else (false, { r with dropped := r.dropped + 1 })

def pop (r : FrameRing) : Option Frame × FrameRing :=
  match r.frames with
  | [] => (none, r)
  | f :: rest => (some f, { r with frames := rest, read := r.read + 1 })

/-- Take the newest frame and skip all the others. -/
def latest (r : FrameRing) : Option Frame × FrameRing :=
  (r.frames.getLast?, { r with frames := [], read := r.read + r.frames.length })

def size (r : FrameRing) : Nat := r.frames.length

end FrameRing
end FrameGrabber
