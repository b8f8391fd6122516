import FrameGrabber.Pipeline
import FrameGrabber.Transport.Time

/-!
# A frame loop under a stopwatch

To say when deliveries start, a stopwatch takes its place before all consumers of a
loop, as one more consumer. It is handed what they are handed, and it only writes
down what the clock shows then, and what the clock showed when the frame came in.

The loop that is watched runs in a world with these notes. Its source, its clock and
its consumers are the old ones and know nothing of the notes.
-/

namespace FrameGrabber

/-- When a frame came in, and when it was passed on. -/
structure Delivery where
  arrived : Instant
  started : Instant
  deriving DecidableEq, Repr

/-- The world of a loop, with the notes of the stopwatch. -/
structure Timed (W : Type) where
  world : W
  /-- When the source last answered. -/
  arrival : Instant := 0
  deliveries : List Delivery := []

variable {W : Type}

def Clock.timed (c : Clock W) : Clock (Timed W) where
  now s :=
    let (i, world) := c.now s.world
    (i, { s with world })
  sleep span s := { s with world := c.sleep span s.world }
  patience span s := c.patience span s.world

def FrameSource.timed (source : FrameSource W) : FrameSource (Timed W) where
  grab timeout s :=
    let (r, world) := source.grab timeout s.world
    (r, { s with world, arrival := source.clock.time world })
  clock := source.clock.timed
  stopped s := source.stopped s.world

def Consumer.timed (c : Consumer W) : Consumer (Timed W) where
  name := c.name
  onFrame f timestamp s :=
    let (r, world) := c.onFrame f timestamp s.world
    (r, { s with world })

def stopwatch (c : Clock W) : Consumer (Timed W) where
  name := "stopwatch"
  onFrame _ _ s :=
    (.ok (), { s with deliveries := s.deliveries ++ [⟨s.arrival, c.time s.world⟩] })

/-- Did the round that answered so deliver a frame? -/
def delivers : Except CameraError Round → Bool
  | .ok .delivered => true
  | .ok .skipped | .error _ => false

namespace Pipeline

def timed (c : Clock W) (p : Pipeline W) : Pipeline (Timed W) :=
  { p with consumers := stopwatch c :: p.consumers.map (·.timed) }

/-- So many rounds, whatever they answer. -/
def rounds (source : FrameSource W) : Nat → Pipeline W → W →
    List (Except CameraError Round) × Pipeline W × W
  | 0, p, w => ([], p, w)
  | n + 1, p, w =>
    let (r, p, w) := step source p w
    let (rest, p, w) := rounds source n p w
    (r :: rest, p, w)

end Pipeline
end FrameGrabber
