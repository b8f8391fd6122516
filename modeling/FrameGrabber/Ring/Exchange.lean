import FrameGrabber.Sink

/-!
# What goes over a ring

A ring has two halves. Whoever has the one offers frames, and this may be a
preview that a frame loop feeds; whoever has the other takes them. An exchange is
a ring with what went over it so far: the frames that were offered, those that
the ring took in, and those that were taken out again. Nothing reads these
lists, so the ring is the same without them.

When the writer goes away no more frames are offered. What lies in the ring
then is still there for the reader.
-/

namespace FrameGrabber
namespace FrameRing

theorem size_of_pop {r r' : FrameRing} {f : Frame} (h : r.pop = (some f, r')) :
    r'.size < r.size := by
  unfold pop at h
  split at h
  · cases h
  · next hframes =>
      cases h
      simp [size, hframes]

/-- Pop until nothing is left. The answer is all that came out. -/
def drain (r : FrameRing) : List Frame × FrameRing :=
  match _h : r.pop with
  | (none, r) => ([], r)
  | (some f, r) =>
    let (rest, r) := drain r
    (f :: rest, r)
termination_by r.size
decreasing_by exact size_of_pop _h

end FrameRing

/-- What either side of a ring may do. -/
inductive RingMove where
  | push (f : Frame)
  /-- A preview, which has the writing half, is handed a frame. -/
  | preview (f : Frame)
  | pop
  | latest
  /-- The writer goes away. -/
  | close
  deriving DecidableEq, Repr

inductive RingAnswer where
  | pushed (taken : Bool)
  | delivered (r : Except SinkError Unit)
  | frame (f : Option Frame)
  /-- There is no writer, or not any more. -/
  | closed
  deriving Repr

structure Exchange where
  ring : FrameRing
  /-- Is the writer still there? -/
  writable : Bool := true
  offered : List Frame := []
  accepted : List Frame := []
  removed : List Frame := []
  deriving Repr

namespace Exchange

def offer (f : Frame) (x : Exchange) : Bool × Exchange :=
  let (taken, ring) := x.ring.push f
  (taken, { x with
    ring
    offered := x.offered ++ [f]
    accepted := x.accepted ++ if taken then [f] else [] })

def step (x : Exchange) : RingMove → RingAnswer × Exchange
  | .push f =>
    if x.writable then
      let (taken, x) := x.offer f
      (.pushed taken, x)
    else (.closed, x)
  | .preview f =>
    if x.writable then
      (.delivered ((Sink.preview x.ring).deliver f).1, (x.offer f).2)
    else (.closed, x)
  | .pop =>
    let (f, ring) := x.ring.pop
    (.frame f, { x with ring, removed := x.removed ++ f.toList })
  | .latest =>
    let (f, ring) := x.ring.latest
    (.frame f, { x with ring, removed := x.removed ++ x.ring.drain.1 })
  | .close => (.closed, { x with writable := false })

def run (moves : List RingMove) (x : Exchange) : Exchange :=
  moves.foldl (fun x m => (x.step m).2) x

/-- The frames that the ring took in and nobody has taken out yet. -/
def pending (x : Exchange) : List Frame := x.accepted.drop x.removed.length

end Exchange
end FrameGrabber
