import FrameGrabber.Sink.Publisher
import FrameGrabber.Transport.Time

/-!
# The two sides of a publisher

The frame loop offers frames to a queue, and the publishing side takes them from it
and passes them to its track. Neither waits for the other. Here both move one step
at a time, in any order, so a statement over all lists of moves is a statement over
all interleavings of the two.

The publishing side touches the queue only where it takes a frame. What it does
with the frame then concerns its own world, so its whole pass over one frame is one
move: an offer that comes meanwhile finds the queue as it would find it before the
pass is over. When no more frames are offered, it goes on until the queue is empty.

A publication also remembers what went into the queue and when frames left it, and
its track keeps a log of what it was handed. None of this is read by either side.
-/

namespace FrameGrabber

/-- What a track was handed, and whether it took it. -/
structure Capture where
  frame : RgbaFrame
  accepted : Bool
  deriving DecidableEq, Repr

/-- The world of a track with a log of what the track was handed. -/
structure Noted (S : Type) where
  world : S
  captures : List Capture := []

variable {S : Type}

def Clock.noted (c : Clock S) : Clock (Noted S) where
  now s :=
    let (i, world) := c.now s.world
    (i, { s with world })
  sleep span s := { s with world := c.sleep span s.world }
  patience span s := c.patience span s.world

/-- The track with its log. -/
def Track.noted (t : Track S) : Track (Noted S) where
  name := t.name
  capture f s :=
    let (r, world) := t.capture f s.world
    (r, ⟨world, s.captures ++ [⟨f, r.isOk⟩]⟩)

inductive PublisherMove where
  | offer (f : Frame)
  /-- The publishing side is free and looks for a frame. -/
  | take
  /-- Time goes by on the publishing side. -/
  | wait (span : Span)
  deriving DecidableEq, Repr

def PublisherMove.frame? : PublisherMove → Option Frame
  | offer f => some f
  | take | wait _ => none

structure Publication (S : Type) where
  queue : PublisherQueue
  side : Noted S
  /-- The number of frames that the track took. -/
  published : Nat := 0
  offered : List Frame := []
  /-- What the frame loop was told, an answer for each offer. -/
  answers : List (Except SinkError Unit) := []
  /-- The frames that the queue did not drop. -/
  accepted : List Frame := []
  /-- When each frame was taken from the queue. -/
  taken : List Instant := []

namespace Publication

variable (t : Track S) (clock : Clock S) (g : Option Governor)

/-- Nothing was offered yet. -/
def new (depth : Nat) (world : S) : Publication S := { queue := .new depth, side := { world } }

def offer (f : Frame) (p : Publication S) : Publication S :=
  let (answer, queue) := p.queue.offer f
  { p with
    queue
    offered := p.offered ++ [f]
    answers := p.answers ++ [answer]
    accepted := p.accepted ++ if answer.isOk && queue.dropped = p.queue.dropped then [f] else [] }

/-- One pass of the publishing side, if there is a frame for it. -/
def take (p : Publication S) : Publication S :=
  match p.queue.receive with
  | (none, _) => p
  | (some f, queue) =>
    let (n, side) := t.noted.publish clock.noted g [f] p.side
    { p with
      queue
      side
      published := p.published + n
      taken := p.taken ++ [clock.time p.side.world] }

def move (p : Publication S) : PublisherMove → Publication S
  | .offer f => p.offer f
  | .take => p.take t clock g
  | .wait span => { p with side := clock.noted.sleep span p.side }

def run (moves : List PublisherMove) (p : Publication S) : Publication S :=
  moves.foldl (move t clock g) p

/-- No more frames are offered, and the publishing side takes what still waits. -/
def finish (p : Publication S) : Publication S :=
  run t clock g (List.replicate p.queue.waiting.length .take) p

end Publication
end FrameGrabber
