import FrameGrabber.Error

/-!
# Finding a device

An enumeration lists what a transport can see, reachable or not. A descriptor
is a snapshot of one device in that list; texts that a device does not report
are empty rather than absent, except the address. A selector picks one
descriptor out of the list, by its place or by what identifies it.
-/

namespace FrameGrabber

/-- One enumerated device. -/
structure Descriptor where
  vendor : String
  model : String
  serial : String
  /-- How the transport itself addresses the device. -/
  transportId : String
  address : Option String
  deriving DecidableEq, Repr, Inhabited

namespace Descriptor

/-- A descriptor from what a device reports. An empty address is no address. -/
def ofReport (vendor model serial : Option String) (transportId : String)
    (address : Option String) : Descriptor :=
  ⟨vendor.getD "", model.getD "", serial.getD "", transportId, address.filter (· ≠ "")⟩

def text (d : Descriptor) : String :=
  let known (s : String) := if s = "" then "Unknown" else s
  let place := match d.address with
    | some a => " @ " ++ a
    | none => ""
  s!"{known d.vendor} {known d.model} (Serial: {d.serial}){place}"

end Descriptor

/-- How to pick one device. -/
inductive Selector where
  | index (n : Nat)
  /-- A serial number, a network address or a transport id. -/
  | serial (wanted : String)
  deriving DecidableEq, Repr

instance : Inhabited Selector := ⟨.index 0⟩

def Descriptor.goesBy (d : Descriptor) (wanted : String) : Bool :=
  d.serial = wanted || d.transportId = wanted || d.address = some wanted

/-- The place of the device that a selector picks: the place it names, or the
first that goes by its word. -/
def Selector.position? (s : Selector) (devices : List Descriptor) : Except CameraError Nat :=
  if devices.isEmpty then .error (.connection "no cameras found")
  else match s with
    | index n =>
      if n < devices.length then .ok n
      else .error (.connection
        s!"camera index {n} out of range, {devices.length} camera(s) found")
    | serial wanted =>
      match devices.findIdx? (·.goesBy wanted) with
      | some n => .ok n
      | none => .error (.connection s!"no camera matches `{wanted}`")

def Selector.pick (s : Selector) (devices : List Descriptor) : Except CameraError Descriptor :=
  match s.position? devices with
  | .error e => .error e
  | .ok n =>
    match devices[n]? with
    | some d => .ok d
    | none => .error (.connection "no cameras found")

end FrameGrabber
