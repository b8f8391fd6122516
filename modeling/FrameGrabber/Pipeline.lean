import FrameGrabber.Frame.Decode
import FrameGrabber.Governor
import FrameGrabber.Sink.Error
import FrameGrabber.Transport

/-!
# The frame loop

The loop takes frames from a source one at a time, brings each to RGB and hands
it to every consumer in the order in which they were registered. What a consumer
makes of a frame is its own affair: a failure is not passed on, neither to the
source nor to the other consumers.

A failure of the source that concerns one frame only skips a round; any other
ends the loop. The stop flag is looked at before each round, so a round that has
begun reaches all consumers. With a governor, deliveries start at least an
interval apart.
-/

namespace FrameGrabber

/-- Where frames come from and what else the loop needs of its world. -/
structure FrameSource (W : Type) where
  grab : Span → Call W Frame
  clock : Clock W
  /-- Has somebody asked the loop to stop? -/
  stopped : W → Bool

/-- A consumer of frames: what one delivery does to the world. -/
structure Consumer (W : Type) where
  name : String
  onFrame : Frame → Instant → W → Except SinkError Unit × W

/-- How long the loop waits for a frame unless told otherwise. -/
def defaultGrabTimeout : Span := Span.ofMillis 1000

/-- The loop between two rounds. -/
structure Pipeline (W : Type) where
  consumers : List (Consumer W) := []
  grabTimeout : Span := defaultGrabTimeout
  governor : Option Governor := none
  lastDelivery : Option Instant := none

/-- What became of a round. -/
inductive Round where
  | delivered
  | skipped
  deriving DecidableEq, Repr, Inhabited

namespace Pipeline

variable {W : Type}

/-- Register one more consumer, behind the others. -/
def register (p : Pipeline W) (c : Consumer W) : Pipeline W :=
  { p with consumers := p.consumers ++ [c] }

/-- Hand a frame to consumers, one after the other. -/
def dispatch (consumers : List (Consumer W)) (f : Frame) (w : W) : W :=
  consumers.foldl (fun w c => (c.onFrame f f.timestamp w).2) w

def pace (p : Pipeline W) (clock : Clock W) (w : W) : W :=
  match p.governor, p.lastDelivery with
  | some g, some previous =>
    let (now, w) := clock.now w
    let delay := g.delayAfter (now - previous)
    if delay = 0 then w else clock.sleep delay w
  | _, _ => w

def deliver (p : Pipeline W) (clock : Clock W) (f : Frame) (w : W) : Pipeline W × W :=
  let (now, w) := clock.now (p.pace clock w)
  ({ p with lastDelivery := some now }, dispatch p.consumers f w)

def step (source : FrameSource W) (p : Pipeline W) (w : W) :
    Except CameraError Round × Pipeline W × W :=
  match source.grab p.grabTimeout w with
  | (.ok f, w) =>
    let (p, w) := p.deliver source.clock f.normalize w
    (.ok .delivered, p, w)
  | (.error e, w) => if e.isTransient then (.ok .skipped, p, w) else (.error e, p, w)

/-- Rounds until the loop is stopped or the source fails for good, at most as
many as the first argument says. The answer is the number of frames delivered,
or the failure; there is none if the rounds ran out first. -/
def run (source : FrameSource W) : Nat → Nat → Pipeline W → W →
    Option (Except CameraError Nat) × Pipeline W × W
  | 0, delivered, p, w => (if source.stopped w then some (.ok delivered) else none, p, w)
  | rounds + 1, delivered, p, w =>
    if source.stopped w then (some (.ok delivered), p, w)
    else
      match step source p w with
      | (.ok .delivered, p, w) => run source rounds (delivered + 1) p w
      | (.ok .skipped, p, w) => run source rounds delivered p w
      | (.error e, p, w) => (some (.error e), p, w)

end Pipeline
end FrameGrabber
