import FrameGrabber.Feature
import FrameGrabber.Sim.Camera

/-!
# The registers of a simulated camera

Six registers can be written; the other features are read only. A write is
checked in full before it takes effect, so a refused one changes nothing, and
an accepted one changes its own register only. Width, height and pixel format
are locked while the camera acquires, since the buffers in flight were sized
for them.
-/

namespace FrameGrabber

def acquisitionModes : List String := ["Continuous", "SingleFrame", "MultiFrame"]

/-- The registers that can be written. -/
structure Registers where
  width : UInt32
  height : UInt32
  format : PixelFormat
  rate : Float
  rateEnabled : Bool
  mode : String
  deriving Repr, Inhabited

namespace Registers

/-- The registers of a camera that was just opened: the full sensor, the first
format, the highest rate. -/
def initial (c : Camera) : Registers :=
  ⟨c.sensorWidth, c.sensorHeight, c.formats.head?.getD .mono8, c.maxFrameRate, false,
    "Continuous"⟩

/-- Bytes of one payload, as far as they fit into a 64-bit word. A format of unknown
size counts as one byte to a pixel. -/
def payloadSize (r : Registers) : UInt64 :=
  r.width.toUInt64 * r.height.toUInt64 * (r.format.bytesPerPixel?.getD 1).toUInt64

/-- Bytes of one picture. The word that says how long its payload is wraps where
a picture is longer than a word can say. -/
def pictureSize (r : Registers) : Nat :=
  r.width.toNat * r.height.toNat * r.format.bytesPerPixel?.getD 1

/-- Bytes of one payload as a program says it that was built so. -/
def payloadSize? (b : Build) (r : Registers) : Option UInt64 :=
  b.count? r.pictureSize r.payloadSize

/-- Can a program that was built so say the bytes of one payload, and have memory for
them? -/
def Affordable (b : Build) (r : Registers) : Prop :=
  ∃ n, r.payloadSize? b = some n ∧ n.toNat ≤ memoryLimit

/-- Time between two frames: that of the rate register if it is enabled, else
of the highest rate, and ten seconds at most. -/
def frameInterval (r : Registers) (c : Camera) : Span :=
  let rate := if r.rateEnabled then r.rate else c.maxFrameRate
  let rate := if 0.1 < rate then rate else 0.1
  (Span.ofSeconds? (1.0 / rate)).getD 0

def read (r : Registers) (c : Camera) : Feature → FeatureValue
  | .width => .int r.width.toUInt64.toInt64
  | .height => .int r.height.toUInt64.toInt64
  | .pixelFormat => .enum r.format.name
  | .frameRate => .float r.rate
  | .frameRateEnable => .bool r.rateEnabled
  | .acquisitionMode => .enum r.mode
  | .payloadSize => .int r.payloadSize.toInt64
  | .sensorWidth => .int c.sensorWidth.toUInt64.toInt64
  | .sensorHeight => .int c.sensorHeight.toUInt64.toInt64
  | .vendorName => .string c.vendor
  | .modelName => .string c.model
  | .serialNumber => .string c.serial

def refuse {α : Type} (f : Feature) (reason : String) : Except CameraError α :=
  .error (.invalidFeatureValue f.name reason)

/-- Check a side of the image against that of the sensor. -/
def checkSide (f : Feature) (v : FeatureValue) (limit : UInt32) : Except CameraError UInt32 :=
  match v.asInt? with
  | none => refuse f s!"expected integer, got {v.text}"
  | some n =>
    if n < 1 || limit.toUInt64.toInt64 < n then
      refuse f s!"{toString n} outside 1..={toString limit}"
    else .ok n.toUInt64.toUInt32

/-- Check a pixel format against the camera's list. -/
def checkFormat (c : Camera) (v : FeatureValue) : Except CameraError PixelFormat :=
  match v.asWord? with
  | none => refuse .pixelFormat s!"expected enum entry, got {v.text}"
  | some symbol =>
    let format := PixelFormat.parse symbol
    if c.formats.contains format then .ok format
    else refuse .pixelFormat s!"`{symbol}` is not an entry"

/-- Check a frame rate against the camera's limit. -/
def checkRate (c : Camera) (v : FeatureValue) : Except CameraError Float :=
  match v.asFloat? with
  | none => refuse .frameRate s!"expected float, got {v.text}"
  | some rate =>
    if 0.0 < rate && rate ≤ c.maxFrameRate then .ok rate
    else refuse .frameRate
      s!"{Decimal.floatText rate} outside (0, {Decimal.floatText c.maxFrameRate}]"

def checkSwitch (v : FeatureValue) : Except CameraError Bool :=
  match v.asBool? with
  | none => refuse .frameRateEnable s!"expected bool, got {v.text}"
  | some on => .ok on

def checkMode (v : FeatureValue) : Except CameraError String :=
  match v.asWord?.filter acquisitionModes.contains with
  | none => refuse .acquisitionMode s!"unknown mode {v.text}"
  | some mode => .ok mode

def write (r : Registers) (c : Camera) (acquiring : Bool) (f : Feature) (v : FeatureValue) :
    Except CameraError Registers :=
  match f with
  | .payloadSize | .sensorWidth | .sensorHeight | .vendorName | .modelName | .serialNumber =>
    .error (.featureReadOnly f.name)
  | .width =>
    if acquiring then .error (.featureReadOnly f.name)
    else (fun width => { r with width }) <$> checkSide f v c.sensorWidth
  | .height =>
    if acquiring then .error (.featureReadOnly f.name)
    else (fun height => { r with height }) <$> checkSide f v c.sensorHeight
  | .pixelFormat =>
    if acquiring then .error (.featureReadOnly f.name)
    else (fun format => { r with format }) <$> checkFormat c v
  | .frameRate => (fun rate => { r with rate }) <$> checkRate c v
  | .frameRateEnable => (fun rateEnabled => { r with rateEnabled }) <$> checkSwitch v
  | .acquisitionMode => (fun mode => { r with mode }) <$> checkMode v

end Registers
end FrameGrabber
