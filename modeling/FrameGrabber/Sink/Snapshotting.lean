import FrameGrabber.Sink.Snapshot

/-!
# Requests, deliveries and a writer side by side

Anyone with a copy of the trigger may ask for a snapshot at any time. The frame loop
delivers its frames to the sink, one after the other, and the writer makes images of the
frames that the sink hands over. None of them waits for another. Here they move one step
at a time, in any order.

To ask is one step: it raises the counter that all copies of the trigger share. To deliver
takes several. The sink looks at the counter, and if no request is open the delivery is
over. Otherwise it tries to lower the counter by one, provided that it still is what was
seen. If it is not the try fails; it may also fail for no reason. A try that fails tells
what the counter is, and the sink goes on from there. Once a try has succeeded the frame
goes to the writer, over a queue that is never full and keeps the order.

The frame loop may let go of the sink between two deliveries. The writer goes on then until
the queue is empty. It may also perish, and what is in the queue with it.

What was asked, delivered and decided is written down on the way. Nobody reads it.
-/

namespace FrameGrabber

/-- What may happen to a store of snapshots, each at once. -/
inductive SnapshotAct where
  | request
  | deliver (f : Frame)
  deriving DecidableEq, Repr

def SnapshotAct.frame? : SnapshotAct → Option Frame
  | request => none
  | deliver f => some f

def Snapshots.act (s : Snapshots) : SnapshotAct → Snapshots
  | .request => s.request
  | .deliver f => s.deliver f

def Snapshots.after (acts : List SnapshotAct) : Snapshots := acts.foldl act {}

/-- A frame on delivery, of which nothing is decided yet. -/
structure Errand where
  frame : Frame
  /-- The open requests when the delivery began. -/
  asked : Nat
  /-- How many requests had been made by then. -/
  since : Nat
  deriving DecidableEq, Repr

/-- How far the sink is with a delivery. -/
inductive SnapshotStage where
  | idle
  | looking (e : Errand)
  | trying (e : Errand) (seen : Nat)
  /-- The counter is lowered, and the frame is still to be handed over. -/
  | granted (f : Frame)
  deriving DecidableEq, Repr

def SnapshotStage.errand? : SnapshotStage → Option Errand
  | looking e | trying e _ => some e
  | idle | granted _ => none

def SnapshotStage.granted? : SnapshotStage → Option Frame
  | granted f => some f
  | idle | looking _ | trying _ _ => none

/-- A delivery that is decided. -/
structure Visit where
  frame : Frame
  /-- The open requests when it began. -/
  asked : Nat
  /-- The requests made from then until it was decided. -/
  meanwhile : Nat
  /-- The open requests when it was decided. -/
  met : Nat
  deriving DecidableEq, Repr

inductive SnapshotMove where
  /-- A copy of the trigger asks. -/
  | request (copy : Nat)
  | deliver (f : Frame)
  /-- The sink goes on with its delivery. A try to lower the counter may fail. -/
  | proceed (fails : Bool)
  | write
  /-- The frame loop lets go of the sink. -/
  | close
  | perish
  deriving DecidableEq, Repr

def SnapshotMove.isRequest : SnapshotMove → Bool
  | request _ => true
  | deliver _ | proceed _ | write | close | perish => false

def SnapshotMove.isDelivery : SnapshotMove → Bool
  | deliver _ => true
  | request _ | proceed _ | write | close | perish => false

structure Snapshotting where
  /-- The counter. Requests come one at a time, too few to run over a word. -/
  pending : Nat := 0
  stage : SnapshotStage := .idle
  /-- Is there still a sink to deliver to? -/
  kept : Bool := true
  /-- Is the writer still there? -/
  attended : Bool := true
  /-- Frames on their way to the writer, the oldest first. -/
  waiting : List Frame := []
  saved : List (Frame × Except SinkError Image) := []
  /-- The number of requests made. -/
  requests : Nat := 0
  delivered : List Frame := []
  visits : List Visit := []
  /-- Requests and decisions, in the order in which they came about. -/
  order : List SnapshotAct := []
  answers : List (Except SinkError Unit) := []
  deriving Repr

namespace Snapshotting

/-- The frames that the writer was handed. -/
def handed (x : Snapshotting) : List Frame := x.saved.map (·.1) ++ x.waiting

def request (x : Snapshotting) : Snapshotting :=
  { x with
    pending := x.pending + 1, requests := x.requests + 1, order := x.order ++ [.request] }

/-- A delivery begins, unless there is no sink or it has not done with another. -/
def deliver (f : Frame) (x : Snapshotting) : Snapshotting :=
  match x.stage with
  | .idle =>
    if x.kept then
      { x with
        stage := .looking ⟨f, x.pending, x.requests⟩, delivered := x.delivered ++ [f] }
    else x
  | .looking _ | .trying _ _ | .granted _ => x

/-- Note that a delivery is decided by the counter as it is. -/
def resolve (e : Errand) (x : Snapshotting) : Snapshotting :=
  { x with
    visits := x.visits ++ [⟨e.frame, e.asked, x.requests - e.since, x.pending⟩]
    order := x.order ++ [.deliver e.frame] }

def answer (a : Except SinkError Unit) (x : Snapshotting) : Snapshotting :=
  { x with stage := .idle, answers := x.answers ++ [a] }

/-- The sink learns what the counter is. -/
def learn (e : Errand) (x : Snapshotting) : Snapshotting :=
  if x.pending = 0 then (x.resolve e).answer (.ok ())
  else { x with stage := .trying e x.pending }

/-- The counter is what was seen, and is lowered. -/
def grant (e : Errand) (x : Snapshotting) : Snapshotting :=
  { x.resolve e with pending := x.pending - 1, stage := .granted e.frame }

def hand (f : Frame) (x : Snapshotting) : Snapshotting :=
  if !x.kept then x.answer (.error (.refused "snapshot writer closed"))
  else if !x.attended then x.answer (.error (.refused "snapshot writer has exited"))
  else { x with waiting := x.waiting ++ [f] }.answer (.ok ())

def proceed (fails : Bool) (x : Snapshotting) : Snapshotting :=
  match x.stage with
  | .idle => x
  | .looking e => x.learn e
  | .trying e seen => if x.pending = seen && !fails then x.grant e else x.learn e
  | .granted f => x.hand f

def write (x : Snapshotting) : Snapshotting :=
  match x.waiting with
  | [] => x
  | f :: rest => { x with waiting := rest, saved := x.saved ++ [(f, Image.ofFrame f)] }

def close (x : Snapshotting) : Snapshotting :=
  match x.stage with
  | .idle => { x with kept := false }
  | .looking _ | .trying _ _ | .granted _ => x

def perish (x : Snapshotting) : Snapshotting := { x with attended := false, waiting := [] }

def move (x : Snapshotting) : SnapshotMove → Snapshotting
  | .request _ => x.request
  | .deliver f => x.deliver f
  | .proceed fails => x.proceed fails
  | .write => x.write
  | .close => x.close
  | .perish => x.perish

def run (moves : List SnapshotMove) (x : Snapshotting) : Snapshotting := moves.foldl move x

/-- The frame loop lets go of the sink, and the writer writes what still waits. -/
def finish (x : Snapshotting) : Snapshotting :=
  run (.close :: List.replicate x.waiting.length .write) x

end Snapshotting
end FrameGrabber
