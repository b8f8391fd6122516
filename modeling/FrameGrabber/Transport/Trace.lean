import FrameGrabber.Transport

/-!
# A transport that keeps a trace

`Transport.traced` does what another transport does, and writes down every call
that acts on a device: connecting, writing a feature, executing a command,
opening a stream, handing a buffer over, letting go of a stream or a connection.
Calls that only ask leave no event, save the one that asks for the size of a
payload, since rings are made to that measure. The ways in which buffers come
back leave none either.

Since the trace is part of the world and nothing else reads it, a session over a
traced transport does what it would do without, and what it did can be read off
its world afterwards.
-/

namespace FrameGrabber

/-- One call that acted on a device, or tried to, or took its measure. -/
inductive DeviceEvent where
  /-- Connecting, with the connection if there is one. -/
  | connect (device : Descriptor) (connection : Option ConnectionId)
  | write (connection : ConnectionId) (feature : String) (value : FeatureValue) (accepted : Bool)
  | execute (connection : ConnectionId) (command : String) (accepted : Bool)
  /-- Asking for the bytes of a payload, with the answer if there is one. -/
  | measure (connection : ConnectionId) (size : Option Nat)
  /-- Opening a stream, with the stream if there is one. -/
  | openStream (connection : ConnectionId) (stream : Option StreamId)
  | enqueue (stream : StreamId) (buffer : BufferId)
  | releaseStream (stream : StreamId)
  | releaseConnection (connection : ConnectionId)
  deriving Repr

/-- The line that a call log has for an event. Asking, moving buffers and letting
go are not logged. -/
def DeviceEvent.line? : DeviceEvent → Option String
  | connect d c => some ("open " ++ d.transportId ++ ending c.isSome)
  | write _ name v accepted => some ("set " ++ name ++ "=" ++ v.text ++ ending accepted)
  | execute _ name accepted => some ("execute " ++ name ++ ending accepted)
  | openStream _ s => some ("create_stream" ++ ending s.isSome)
  | measure .. | enqueue .. | releaseStream _ | releaseConnection _ => none
where
  /-- How a line says whether the call was accepted. -/
  ending (accepted : Bool) : String := if accepted then " ok" else " err"

/-- The device was told to start and did. -/
def DeviceEvent.isStarted : DeviceEvent → Bool
  | execute _ name accepted => name = Command.acquisitionStart.name && accepted
  | _ => false

/-- A world with the trace of the calls made on it. -/
structure Traced (W : Type) where
  world : W
  trace : List DeviceEvent := []

namespace Traced

variable {W α : Type}

def pass (f : W → α × W) (x : Traced W) : α × Traced W :=
  let (a, world) := f x.world
  (a, { x with world })

/-- Act on the world and write down what came of it. -/
def noted (event : α → DeviceEvent) (f : W → α × W) (x : Traced W) : α × Traced W :=
  let (a, world) := f x.world
  (a, { world, trace := x.trace ++ [event a] })

/-- The same for an act without an answer. -/
def marked (event : DeviceEvent) (f : W → W) (x : Traced W) : Traced W :=
  { world := f x.world, trace := x.trace ++ [event] }

def fresh (x : Traced W) : Traced W := { x with trace := [] }

/-- How often a device has started. -/
def starts (x : Traced W) : Nat := x.trace.countP (·.isStarted)

end Traced

/-- The transport with a trace of the calls made on it. -/
def Transport.traced {W : Type} (t : Transport W) : Transport (Traced W) where
  name := t.name
  clock :=
    { now := Traced.pass t.clock.now
      sleep := fun span x => { x with world := t.clock.sleep span x.world }
      patience := fun span x => t.clock.patience span x.world }
  enumerate := Traced.pass t.enumerate
  connect d := Traced.noted (fun r => .connect d r.toOption) (t.connect d)
  getFeature c name := Traced.pass (t.getFeature c name)
  setFeature c name v := Traced.noted (fun r => .write c name v r.isOk) (t.setFeature c name v)
  featureOptions c name := Traced.pass (t.featureOptions c name)
  execute c name := Traced.noted (fun r => .execute c name r.isOk) (t.execute c name)
  payloadSize c := Traced.noted (fun r => .measure c r.toOption) (t.payloadSize c)
  overflows c x := t.overflows c x.world
  createStream c := Traced.noted (fun r => .openStream c r.toOption) (t.createStream c)
  channel id :=
    { enqueue := fun b => Traced.marked (.enqueue id b.id) ((t.channel id).enqueue b)
      dequeue := fun timeout => Traced.pass ((t.channel id).dequeue timeout)
      flush := Traced.pass (t.channel id).flush }
  releaseStream id := Traced.marked (.releaseStream id) (t.releaseStream id)
  releaseConnection c := Traced.marked (.releaseConnection c) (t.releaseConnection c)

end FrameGrabber
