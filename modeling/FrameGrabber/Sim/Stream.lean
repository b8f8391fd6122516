import FrameGrabber.Buffer
import FrameGrabber.Sim.Pattern
import FrameGrabber.Sim.Registers
import FrameGrabber.Sim.Schedule

/-!
# The stream of a simulated camera

Empty buffers wait in one queue, filled ones in another. At each tick the camera
takes the oldest empty buffer, exposes into it and moves it over; a tick that
finds no empty buffer loses its frame, but counts.

Between two events the camera runs on its own, waking exactly when a tick is
due. `advance` does all its ticks up to an instant in one go: as many exposures
as there are empty buffers, then the lost ticks, whose number follows from the
interval.

The picture of a sensor can be longer than the 64-bit word says that measures its
payload. A camera with such a sensor breaks down at its first exposure, for good
and together with the buffer in its hand.
-/

namespace FrameGrabber

/-- Expose one frame into a buffer. An incomplete one only marks the buffer, and
so does a buffer too small for the payload. -/
def Camera.expose (c : Camera) (r : Registers) (tick : Nat) (b : Buffer) : Buffer :=
  if c.fails tick then b.setStatus .timeout
  else
    match b.grant? r.payloadSize.toNat with
    | none => b.setStatus .aborted
    | some b =>
      ((b.overwrite (Pattern.payload r.format r.width.toNat r.height.toNat tick)).setStatus
        .success).setInfo ⟨r.width, r.height, r.format⟩

/-- Does the camera write beyond the region that it is granted? It does where a
picture is longer than its payload is said to be. -/
def Camera.overruns (c : Camera) (r : Registers) (tick : Nat) (b : Buffer) : Bool :=
  !c.fails tick && r.payloadSize.toNat ≤ b.capacity && r.payloadSize.toNat < r.pictureSize

/-- The buffer after a tick that found it. There is none if the camera breaks
down over it. -/
def Camera.exposure? (c : Camera) (r : Registers) (tick : Nat) (b : Buffer) : Option Buffer :=
  if c.overruns r tick b then none else some (c.expose r tick b)

/-- A stream and where the camera is with it. -/
structure SimStream where
  /-- The connection whose camera feeds the stream. -/
  connection : Nat
  /-- Empty buffers, the oldest first. -/
  input : List Buffer := []
  /-- Filled buffers, the oldest first. -/
  output : List Buffer := []
  /-- Ticks so far. -/
  ticks : Nat := 0
  /-- The ticks that put a buffer down filled, in their order. Nothing reads this. -/
  filled : List Nat := []
  /-- When the next tick is due; none while the camera is at rest. -/
  due : Option Instant := none
  /-- The camera has broken down. Nothing more will come. -/
  broken : Bool := false
  deriving Repr

namespace SimStream

/-- Where a stretch of ticks ends. -/
structure Stretch where
  /-- The buffers that were put down, each with its tick. -/
  exposed : List (Nat × Buffer)
  left : List Buffer
  due : Instant
  ticks : Nat
  broken : Bool

/-- The ticks due up to `until`, the first of them due at `due`. -/
def stretch (expose : Nat → Buffer → Option Buffer) (interval : Span) (until' : Instant) :
    List Buffer → Instant → Nat → Stretch
  | [], due, n =>
    if until' < due then ⟨[], [], due, n, false⟩
    else
      let lost := (until' - due) / interval + 1
      ⟨[], [], due + lost * interval, n + lost, false⟩
  | b :: rest, due, n =>
    if until' < due then ⟨[], b :: rest, due, n, false⟩
    else
      match expose n b with
      | none => ⟨[], rest, due, n, true⟩
      | some filled =>
        let later := stretch expose interval until' rest (Schedule.nextDue interval due due) (n + 1)
        { later with exposed := (n, filled) :: later.exposed }

/-- Let the camera run up to an instant. An interval shorter than a nanosecond
counts as one. -/
def advance (c : Camera) (r : Registers) (until' : Instant) (s : SimStream) : SimStream :=
  if s.broken then s
  else
    match s.due with
    | none => s
    | some due =>
      let x := stretch (c.exposure? r) (max 1 (r.frameInterval c)) until' s.input due s.ticks
      { s with
        input := x.left, output := s.output ++ x.exposed.map (·.2), due := some x.due
        ticks := x.ticks, filled := s.filled ++ x.exposed.map (·.1), broken := x.broken }

def enqueue (s : SimStream) (b : Buffer) : SimStream := { s with input := s.input ++ [b] }

def take (s : SimStream) : Option Buffer × SimStream :=
  match s.output with
  | [] => (none, s)
  | b :: rest => (some b, { s with output := rest })

/-- Take every buffer, the empty ones first. -/
def flush (s : SimStream) : List Buffer × SimStream :=
  (s.input ++ s.output, { s with input := [], output := [] })

/-- When the next buffer will be filled, if one will. -/
def nextFill? (s : SimStream) : Option Instant := if s.input.isEmpty then none else s.due

end SimStream
end FrameGrabber
