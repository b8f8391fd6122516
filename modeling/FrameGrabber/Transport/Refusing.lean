import FrameGrabber.Transport

/-!
# A transport that refuses commands

`Transport.refusing` does what another transport does, except that commands are
first held against a schedule. The schedule says for each command, counted from
zero, whether it is refused and with what error; one that is refused does not
reach the device. Every other call goes through as it is.

The commands are logged with what came of them, the latest first. Nothing else
reads the log; the schedule only reads its length.
-/

namespace FrameGrabber

/-- A world and the schedule by which commands to it are refused. -/
structure Refusing (W : Type) where
  world : W
  schedule : Nat → Option CameraError
  /-- Commands so far, and whether each was carried out. -/
  commands : List (String × Bool) := []

namespace Refusing

variable {W α : Type}

def pass (f : W → α × W) (x : Refusing W) : α × Refusing W :=
  let (a, world) := f x.world
  (a, { x with world })

def act (f : W → W) (x : Refusing W) : Refusing W := { x with world := f x.world }

def log (name : String) (done : Bool) (x : Refusing W) : Refusing W :=
  { x with commands := (name, done) :: x.commands }

/-- Carry out a command unless the schedule refuses it. -/
def command (name : String) (f : Call W Unit) : Call (Refusing W) Unit := fun x =>
  match x.schedule x.commands.length with
  | some e => (.error e, x.log name false)
  | none =>
    let (r, x) := pass f x
    (r, x.log name r.isOk)

end Refusing

/-- The transport with a schedule by which commands are refused. -/
def Transport.refusing {W : Type} (t : Transport W) : Transport (Refusing W) where
  name := t.name
  clock :=
    { now := Refusing.pass t.clock.now
      sleep := fun span => Refusing.act (t.clock.sleep span)
      patience := fun span x => t.clock.patience span x.world }
  enumerate := Refusing.pass t.enumerate
  connect d := Refusing.pass (t.connect d)
  getFeature c name := Refusing.pass (t.getFeature c name)
  setFeature c name v := Refusing.pass (t.setFeature c name v)
  featureOptions c name := Refusing.pass (t.featureOptions c name)
  execute c name := Refusing.command name (t.execute c name)
  payloadSize c := Refusing.pass (t.payloadSize c)
  overflows c x := t.overflows c x.world
  createStream c := Refusing.pass (t.createStream c)
  channel id :=
    { enqueue := fun b => Refusing.act ((t.channel id).enqueue b)
      dequeue := fun timeout => Refusing.pass ((t.channel id).dequeue timeout)
      flush := Refusing.pass (t.channel id).flush }
  releaseStream id := Refusing.act (t.releaseStream id)
  releaseConnection c := Refusing.act (t.releaseConnection c)

end FrameGrabber
