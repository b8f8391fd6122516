import FrameGrabber.Pool
import FrameGrabber.Rehearsal.Script

/-!
# A transport that fails on demand

A rehearsal wraps a transport. Each call is first held against a list of
planned faults; a fault that fires ends the call before it reaches the device.
Some answers can be replaced by prepared ones, and streams by scripted ones.

A ring of more than memory can have cannot be rehearsed. It is measured where the size of
a payload is asked for; the stream that it would travel on is refused, and the rehearsal is
over.
-/

namespace FrameGrabber

/-- A planned fault: of the calls it concerns the first few pass, and the next
few fail. -/
structure Fault where
  /-- The call it concerns, for example `set:Width`. -/
  key : String
  passes : Nat
  failures : Nat
  error : CameraError
  deriving Repr, Inhabited

/-- Hold a call against the plan. Every fault that lets the call pass counts it;
the first that fires ends the search. -/
def Fault.check (key : String) : List Fault → Option CameraError × List Fault
  | [] => (none, [])
  | f :: rest =>
    if f.key ≠ key then
      let (e, rest) := check key rest
      (e, f :: rest)
    else if 0 < f.passes then
      let (e, rest) := check key rest
      (e, { f with passes := f.passes - 1 } :: rest)
    else if 0 < f.failures then (some f.error, { f with failures := f.failures - 1 } :: rest)
    else
      let (e, rest) := check key rest
      (e, f :: rest)

/-- A world under rehearsal. -/
structure Rehearsal (W : Type) where
  world : W
  faults : List Fault := []
  /-- Answers to reading a feature. -/
  prepared : List (String × FeatureValue) := []
  /-- The answer to asking for the entries of any feature. -/
  preparedOptions : Option (List String) := none
  preparedPayloadSize : Option Nat := none
  /-- The stage of scripted streams, if streams are scripted. -/
  stage : Option Stage := none
  /-- Buffers in a ring. -/
  ring : Nat := 0
  /-- The size of a payload when it was last asked for. -/
  measured : Nat := 0
  /-- A stream was asked for whose ring memory cannot have. -/
  overdrawn : Bool := false

namespace Rehearsal

variable {W α : Type}

def pass (f : Call W α) : Call (Rehearsal W) α := fun r =>
  let (x, world) := f r.world
  (x, { r with world })

/-- Make a call unless a fault is planned for it. -/
def guarded (key : String) (f : Call (Rehearsal W) α) : Call (Rehearsal W) α := fun r =>
  match Fault.check key r.faults with
  | (some e, faults) => (.error e, { r with faults })
  | (none, faults) => f { r with faults }

/-- Act on the stage of scripted streams, if there is one, else on the world. -/
def staged {β : Type} (f : Stage → β × Stage) (g : W → β × W) (r : Rehearsal W) :
    β × Rehearsal W :=
  match r.stage with
  | some s => let (b, s) := f s; (b, { r with stage := some s })
  | none => let (b, world) := g r.world; (b, { r with world })

/-- Remember the size of a payload. -/
def measure (r : Rehearsal W) (n : Nat) : Rehearsal W := { r with measured := n }

/-- Open a stream, unless memory cannot have the ring that is to travel on it. -/
def unlessOverdrawn (f : Call (Rehearsal W) StreamId) : Call (Rehearsal W) StreamId := fun r =>
  if Pool.overdraws r.ring r.measured then
    (.error (.transport "no memory for the ring"), { r with overdrawn := true })
  else f r

/-- The transport under rehearsal. With scripted streams the time is that of
their stage. -/
def transport (t : Transport W) : Transport (Rehearsal W) where
  name := t.name
  clock :=
    { now := staged (fun s => (s.now, s)) t.clock.now
      sleep := fun span r =>
        (staged (fun s => ((), Stage.clock.sleep span s))
          (fun w => ((), t.clock.sleep span w)) r).2
      patience := fun span r =>
        match r.stage with
        | some s => Stage.clock.patience span s
        | none => t.clock.patience span r.world }
  enumerate := guarded "enumerate" (pass t.enumerate)
  connect d := guarded "open" (pass (t.connect d))
  getFeature c name :=
    guarded ("get:" ++ name) fun r =>
      match r.prepared.lookup name with
      | some v => (.ok v, r)
      | none => pass (t.getFeature c name) r
  setFeature c name v := guarded ("set:" ++ name) (pass (t.setFeature c name v))
  featureOptions c name :=
    guarded ("options:" ++ name) fun r =>
      match r.preparedOptions with
      | some names => (.ok names, r)
      | none => pass (t.featureOptions c name) r
  execute c name := guarded ("execute:" ++ name) (pass (t.execute c name))
  payloadSize c :=
    guarded "payload_size" fun r =>
      match r.preparedPayloadSize with
      | some n => (.ok n, r.measure n)
      | none =>
        match pass (t.payloadSize c) r with
        | (.ok n, r) => (.ok n, r.measure n)
        | (.error e, r) => (.error e, r)
  overflows c r :=
    (Fault.check "payload_size" r.faults).1.isNone && r.preparedPayloadSize.isNone &&
      t.overflows c r.world
  createStream c :=
    guarded "create_stream" <| unlessOverdrawn fun r =>
      match r.stage with
      | some s => let (id, s) := s.openStream; (.ok id, { r with stage := some s })
      | none => pass (t.createStream c) r
  channel id :=
    { enqueue := fun b r =>
        (staged (fun s => ((), s.enqueue id b)) (fun w => ((), (t.channel id).enqueue b w)) r).2
      dequeue := fun timeout => staged (Stage.dequeue id timeout) ((t.channel id).dequeue timeout)
      flush := staged (Stage.flush id) (t.channel id).flush }
  releaseStream id r :=
    (staged (fun s => ((), s)) (fun w => ((), t.releaseStream id w)) r).2
  releaseConnection c r := { r with world := t.releaseConnection c r.world }

end Rehearsal
end FrameGrabber
