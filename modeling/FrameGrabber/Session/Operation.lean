import FrameGrabber.Session

/-!
# What can be asked of a session

The operations of a session as data, so that a whole life of a session is a list
of them. Each may fail; whether it does or not, the session goes on from where
the operation left it.
-/

namespace FrameGrabber

/-- One thing to ask of a session. -/
inductive Operation where
  | connect (device : Descriptor)
  | formats
  | configure (width height : UInt32) (format : PixelFormat) (rate : Float)
  | start
  | stop
  | grab (timeout : Span)
  | disconnect
  deriving Repr, Inhabited

/-- What came of it. -/
inductive Outcome where
  | done
  | formats (offered : List PixelFormat)
  | frame (f : Frame)
  deriving DecidableEq, Repr, Inhabited

namespace Operation

variable {W : Type} (t : Transport W)

def perform : Operation → SessionM W Outcome
  | connect d => (fun _ => .done) <$> Session.connect t d
  | formats => Outcome.formats <$> Session.advertisedFormats t
  | configure width height format rate =>
    (fun _ => .done) <$> Session.configure t width height format rate
  | start => (fun _ => .done) <$> Session.startAcquisition t
  | stop => (fun _ => .done) <$> Session.stopAcquisition t
  | grab timeout => Outcome.frame <$> Session.grab t timeout
  | disconnect => (fun _ => .done) <$> Session.disconnect t

/-- Ask it of a program that was built so. -/
def perform? (b : Build) (x : Operation) (s : Session W) :
    Option (Except CameraError Outcome × Session W) :=
  SessionM.answer? b (x.perform t) s

end Operation

/-- The session after operations, one after the other. -/
def Session.after {W : Type} (t : Transport W) (s : Session W) (ops : List Operation) : Session W :=
  ops.foldl (fun s o => (o.perform t s).2) s

/-- The sessions that `s₀` can become: operations are asked of it, and time passes
between them. -/
inductive Session.Reachable {W : Type} (t : Transport W) (s₀ : Session W) : Session W → Prop
  | start : Reachable t s₀ s₀
  | perform {s : Session W} (o : Operation) (h : Reachable t s₀ s) :
      Reachable t s₀ (o.perform t s).2
  | wait {s : Session W} (span : Span) (h : Reachable t s₀ s) :
      Reachable t s₀ ((Session.clock t).sleep span s)

end FrameGrabber
