import FrameGrabber.Descriptor

/-!
# Simulated cameras

A simulated camera is described by what it reports about itself, by the limits
of its sensor, and by two ways in which it may misbehave: it can be out of
reach, and every so-and-so-many-th frame of it can arrive incomplete.
-/

namespace FrameGrabber

/-- One camera on the simulated network. -/
structure Camera where
  vendor : String := "Gigecast"
  model : String := "SimCam-GV"
  serial : String := "SIM0001"
  address : Option String := some "192.168.10.20"
  sensorWidth : UInt32 := 1920
  sensorHeight : UInt32 := 1200
  maxFrameRate : Float := 60.0
  formats : List PixelFormat := [.mono8, .bayerRG8, .rgb8, .bgr8, .mono16]
  /-- A camera out of reach is listed but cannot be opened. -/
  reachable : Bool := true
  /-- Every so many frames one arrives incomplete; none and zero mean never. -/
  failEvery : Option Nat := none
  deriving Repr, Inhabited

namespace Camera

/-- How the simulated network addresses the camera. -/
def transportId (c : Camera) : String := "SIM:" ++ c.serial

def descriptor (c : Camera) : Descriptor :=
  .ofReport (some c.vendor) (some c.model) (some c.serial) c.transportId c.address

/-- Does the frame of this tick arrive incomplete? -/
def fails (c : Camera) (tick : Nat) : Bool :=
  match c.failEvery with
  | some n => 0 < n && (tick + 1) % n = 0
  | none => false

end Camera
end FrameGrabber
