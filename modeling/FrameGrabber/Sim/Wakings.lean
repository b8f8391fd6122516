import FrameGrabber.Sim.Stream

/-!
# A camera that wakes when it can

In virtual time a camera wakes just when a tick is due. A camera that runs on its own
goes around a loop of naps and exposures, and it comes to look at the clock when it does,
late by any length. Here each waking is told, with the instant and with what the camera
then finds: whether it is to acquire, and its registers. Once it has exposed it looks a
second time whether it is still to acquire.

Whoever has the stream may queue buffers and take them between any two wakings. A life of
the camera is therefore a list of its wakings and of these calls, in any order.

A camera that finds that it is not to acquire forgets when its next tick was due, so an
acquisition begins with no tick due. One that breaks down does not wake again.
-/

namespace FrameGrabber

/-- What a camera finds as it wakes. -/
structure Waking where
  now : Instant
  acquiring : Bool
  registers : Registers
  /-- Is it to acquire after the exposure, if it makes one? -/
  stillAcquiring : Bool
  deriving Repr, Inhabited

/-- A tick of a camera. -/
structure Tick where
  due : Instant
  fell : Instant
  /-- When the next tick is due after this one. -/
  next : Instant
  /-- Was there a buffer to expose into? If not the frame is lost. -/
  exposed : Bool
  deriving DecidableEq, Repr, Inhabited

/-- What may happen to a stream. -/
inductive StreamEvent where
  | wake (w : Waking)
  | enqueue (b : Buffer)
  | take
  | flush
  deriving Repr, Inhabited

def StreamEvent.waking? : StreamEvent → Option Waking
  | wake w => some w
  | enqueue _ | take | flush => none

namespace SimStream

variable (c : Camera)

/-- A tick falls, and the next one is due at `next`. -/
def fall (w : Waking) (next : Instant) (s : SimStream) : SimStream :=
  match s.input with
  | [] => { s with due := some next, ticks := s.ticks + 1 }
  | b :: rest =>
    match c.exposure? w.registers s.ticks b with
    | none => { s with input := rest, broken := true }
    | some filled =>
      let filled := if w.stillAcquiring then filled else filled.setStatus .aborted
      { s with
        input := rest, output := s.output ++ [filled], due := some next
        ticks := s.ticks + 1, filled := s.filled ++ [s.ticks] }

/-- Once around the loop. -/
def round (w : Waking) (s : SimStream) : Option Tick × SimStream :=
  if s.broken then (none, s)
  else if !w.acquiring then (none, { s with due := none })
  else
    let (falls, next) := Schedule.wake (w.registers.frameInterval c) s.due w.now
    if falls then
      (some ⟨s.due.getD w.now, w.now, next, !s.input.isEmpty⟩, s.fall c w next)
    else (none, { s with due := some next })

def meet (s : SimStream) : StreamEvent → Option Tick × SimStream
  | .wake w => s.round c w
  | .enqueue b => (none, s.enqueue b)
  | .take => (none, s.take.2)
  | .flush => (none, s.flush.2)

/-- A whole life, with its ticks. -/
def live : List StreamEvent → SimStream → List Tick × SimStream
  | [], s => ([], s)
  | e :: rest, s =>
    let (tick, s) := s.meet c e
    let (later, s) := live rest s
    (tick.toList ++ later, s)

end SimStream
end FrameGrabber
