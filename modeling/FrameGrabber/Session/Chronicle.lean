import FrameGrabber.Session.Operation
import FrameGrabber.Studio
import FrameGrabber.Transport.Trace

/-!
# What the grabs of a session gave

A session is asked for frames in two ways: by a grab of its own, or by a round of
a frame loop that has the session for its source. A chronicle is kept of either
kind, one answer for each time that a frame was asked for, with the number of
times that a device had started by then. Between the answers anything else may
be asked of the session, and the loop may be another one in every round.
-/

namespace FrameGrabber

/-- What a grab gave, and how often a device had started before it. -/
structure Answer where
  starts : Nat
  result : Except CameraError Frame

namespace Answer

def isFrame (a : Answer) : Bool := a.result.isOk

/-- The answer is a failure that concerns one frame only. -/
def isTransient (a : Answer) : Bool :=
  match a.result with
  | .ok _ => false
  | .error e => e.isTransient

def isTimeout (a : Answer) : Bool :=
  match a.result with
  | .error (.timeout _) => true
  | _ => false

/-- What a round of a frame loop makes of the answer. -/
def round (a : Answer) : Except CameraError Round :=
  match a.result with
  | .ok _ => .ok .delivered
  | .error e => if e.isTransient then .ok .skipped else .error e

end Answer

/-- One thing to ask of the session in a studio. -/
inductive Request (W : Type) where
  | operation (o : Operation)
  | round (p : Pipeline (Studio (Session (Traced W))))

namespace Request

variable {W : Type} (t : Transport W)

/-- The session as the source of a frame loop. -/
def source : FrameSource (Studio (Session (Traced W))) :=
  Studio.frames (Session.grab t.traced) (Session.clock t.traced)

/-- The studio after the request. -/
def serve (w : Studio (Session (Traced W))) : Request W → Studio (Session (Traced W))
  | operation o => { w with source := (o.perform t.traced w.source).2 }
  | round p => (p.step (source t) w).2.2

/-- How long the request waits for a frame, if it asks for one. -/
def wait? : Request W → Option Span
  | operation (.grab timeout) => some timeout
  | operation _ => none
  | round p => some p.grabTimeout

/-- The answer to the request, if it asks for a frame. -/
def answer? (w : Studio (Session (Traced W))) (r : Request W) : Option Answer :=
  r.wait?.map fun timeout =>
    ⟨w.source.world.starts, (Session.grab t.traced timeout w.source).1⟩

/-- The consumers of a loop have no hold on the session that feeds it. -/
def Spares : Request W → Prop
  | operation _ => True
  | round p => ∀ c ∈ p.consumers, ∀ f i w, (c.onFrame f i w).2.source = w.source

end Request

/-- Requests one after the other: the answers, and the studio afterwards. -/
def chronicle {W : Type} (t : Transport W) :
    List (Request W) → Studio (Session (Traced W)) → List Answer × Studio (Session (Traced W))
  | [], w => ([], w)
  | r :: rest, w =>
    let (answers, later) := chronicle t rest (r.serve t w)
    ((r.answer? t w).toList ++ answers, later)

/-- The frames among the answers that came after this many starts. -/
def framesSince (starts : Nat) (answers : List Answer) : Nat :=
  answers.countP fun a => a.starts = starts && a.isFrame

end FrameGrabber
