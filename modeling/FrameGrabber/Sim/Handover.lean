import FrameGrabber.Sim.Stream
import FrameGrabber.Transport

/-!
# Two parties over one stream

A stream has two users who do not wait for each other. The caller queues empty
buffers and takes filled ones; the camera takes the oldest empty buffer in its
hand, exposes into it and puts it with the filled ones. Here both move one step
at a time. What the camera does before each of the caller's moves is laid down
in a plan, so a statement over all plans is a statement over all interleavings
of the two.

The camera is told to acquire or to stop by a switch, which anyone may turn at
any time. It looks at the switch twice in a round and acts on what it saw,
which may be out of date by then: so it may take a buffer after it was told to
stop, and put down a good frame after that.

A flush is not one move. It takes empty buffers until it finds none, then filled
ones until it finds none, and the camera may move between any two of these. So
a buffer that was in the camera's hand all the while escapes a flush, and so
does one that is put down after the last look.
-/

namespace FrameGrabber

/-- What the camera exposes at each tick, with the registers as they are then. -/
def Camera.exposing (c : Camera) (registers : Nat → Registers) (tick : Nat) (b : Buffer) :
    Buffer :=
  c.expose (registers tick) tick b

/-- How far the camera is in its round. -/
inductive Posture where
  | resting
  /-- It saw the switch on and a tick is due: it is about to take a buffer. -/
  | reaching
  | holding (b : Buffer)
  /-- It has exposed, and looked at the switch again. -/
  | offering (b : Buffer)
  deriving Repr, Inhabited

/-- The buffer that the camera has taken and not put down yet. -/
def Posture.hand : Posture → Option Buffer
  | resting | reaching => none
  | holding b | offering b => some b

/-- What may happen on the other side of a stream. -/
inductive Stir where
  | camera
  | switch (on : Bool)
  deriving DecidableEq, Repr, Inhabited

/-- What happens before one of the caller's moves. -/
structure Turn where
  stirs : List Stir := []
  /-- How much time goes by. -/
  elapsed : Span := 0
  deriving DecidableEq, Repr, Inhabited

/-- A stream between its two users. -/
structure Handover where
  /-- Empty buffers, the oldest first. -/
  input : List Buffer := []
  posture : Posture := .resting
  /-- Filled buffers, the oldest first. -/
  output : List Buffer := []
  /-- The switch: is the camera to acquire? -/
  acquiring : Bool := false
  /-- The camera's ticks so far. -/
  ticks : Nat := 0
  /-- The turns to come; after them nothing stirs. -/
  plan : List Turn := []
  now : Instant := 0
  /-- Has the camera had a buffer in its hand since the last flush began? -/
  busy : Bool := false
  /-- For each flush so far, whether the camera's hand was empty from its
  beginning to its end. -/
  quiet : List Bool := []
  deriving Repr

namespace Handover

variable (expose : Nat → Buffer → Buffer)

def hand (h : Handover) : Option Buffer := h.posture.hand

/-- The buffers of the stream, wherever they are. -/
def inside (h : Handover) : List Buffer := h.input ++ h.hand.toList ++ h.output

/-! ## The camera -/

/-- One step of the camera's round. A tick that finds no empty buffer is lost. A
frame does not count if the switch is off after the exposure. -/
def cameraStep (h : Handover) : Handover :=
  match h.posture with
  | .resting => if h.acquiring then { h with posture := .reaching } else h
  | .reaching =>
    match h.input with
    | [] => { h with posture := .resting, ticks := h.ticks + 1 }
    | b :: rest => { h with posture := .holding b, input := rest, busy := true }
  | .holding b =>
    let exposed := expose h.ticks b
    let b := if h.acquiring then exposed else exposed.setStatus .aborted
    { h with posture := .offering b, ticks := h.ticks + 1 }
  | .offering b => { h with posture := .resting, output := h.output ++ [b] }

def stir (h : Handover) : Stir → Handover
  | .camera => h.cameraStep expose
  | .switch on => { h with acquiring := on }

def turn (h : Handover) : Handover :=
  match h.plan with
  | [] => h
  | t :: rest =>
    let h := t.stirs.foldl (stir expose) h
    { h with plan := rest, now := h.now + t.elapsed }

/-! ## The caller -/

def enqueue (b : Buffer) (h : Handover) : Handover :=
  let h := h.turn expose
  { h with input := h.input ++ [b] }

/-- The caller takes the oldest empty buffer back, if there is one. -/
def takeInput (h : Handover) : Option Buffer × Handover :=
  let h := h.turn expose
  match h.input with
  | [] => (none, h)
  | b :: rest => (some b, { h with input := rest })

/-- The caller takes the oldest filled buffer, if there is one. -/
def takeOutput (h : Handover) : Option Buffer × Handover :=
  let h := h.turn expose
  match h.output with
  | [] => (none, h)
  | b :: rest => (some b, { h with output := rest })

/-- One move of the caller. -/
inductive Access where
  | give (b : Buffer)
  | takeInput
  | takeOutput
  deriving DecidableEq, Repr, Inhabited

/-- The buffer that a move puts into the stream. -/
def Access.given? : Access → Option Buffer
  | give b => some b
  | takeInput | takeOutput => none

def access (h : Handover) : Access → Option Buffer × Handover
  | .give b => (none, h.enqueue expose b)
  | .takeInput => h.takeInput expose
  | .takeOutput => h.takeOutput expose

/-- Moves of the caller one after the other, with the buffers they bring back. -/
def accesses : List Access → Handover → List Buffer × Handover
  | [], h => ([], h)
  | a :: rest, h =>
    let (b, h) := h.access expose a
    let (bs, h) := accesses rest h
    (b.toList ++ bs, h)

/-! ## The channel -/

def dequeue (timeout : Span) : Call Handover Buffer := fun h =>
  match h.takeOutput expose with
  | (some b, h) => (.ok b, h)
  | (none, h) => (.error (.timeout timeout), { h with now := h.now + timeout })

/-- Repeat a move of the caller until it finds nothing, at most as often as the
first argument says. -/
def untilNone (move : Handover → Option Buffer × Handover) :
    Nat → Handover → List Buffer × Handover
  | 0, h => ([], h)
  | most + 1, h =>
    match move h with
    | (none, h) => ([], h)
    | (some b, h) =>
      let (bs, h) := untilNone move most h
      (b :: bs, h)

/-- The caller takes back all the buffers that it finds. Each move but the last
of either kind takes one out of the stream, so there are at most one more of
them than buffers. -/
def flush (h : Handover) : List Buffer × Handover :=
  let h := { h with busy := h.hand.isSome }
  let (empty, h) := untilNone (takeInput expose) (h.inside.length + 1) h
  let (filled, h) := untilNone (takeOutput expose) (h.inside.length + 1) h
  (empty ++ filled, { h with quiet := h.quiet ++ [!h.busy] })

def channel : Channel Handover := ⟨enqueue expose, dequeue expose, flush expose⟩

/-- The clock of the stream. Time goes by with the turns, and while a caller
waits in vain. -/
def clock : Clock Handover where
  now h := (h.now, h)
  sleep span h := { h with now := h.now + span }
  patience span h := span + h.inside.length

end Handover
end FrameGrabber
