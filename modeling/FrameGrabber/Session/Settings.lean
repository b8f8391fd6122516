import FrameGrabber.Transport

/-!
# Reading and writing the acquisition settings

Four settings make up a configuration: width, height, pixel format and frame
rate. Reading them never fails; a device that does not answer, or answers with
something that cannot be one, reads as zero, the format as plain bytes.

Writing them takes five writes, since the frame rate has a switch of its own,
which a device may lack. Each write first reads the value it replaces. The
first write that fails puts the replaced values back, the latest first, and the
whole of it fails with that write's error.
-/

namespace FrameGrabber

/-- A configuration of the acquisition. -/
structure Settings where
  width : UInt32
  height : UInt32
  format : PixelFormat
  rate : Float
  deriving Repr, Inhabited

def size32? (v : Int64) : Option UInt32 :=
  if 0 ≤ v.toInt && v.toInt < UInt32.size then some v.toInt.toNat.toUInt32 else none

/-- One of the writes of a configuration. -/
structure FeatureWrite where
  feature : Feature
  value : FeatureValue
  /-- May the device lack the feature? -/
  optional : Bool
  deriving Repr, Inhabited

/-- The writes of a configuration, in the order in which they are made. -/
def Settings.writes (s : Settings) : List FeatureWrite :=
  [⟨.width, .int s.width.toUInt64.toInt64, false⟩,
    ⟨.height, .int s.height.toUInt64.toInt64, false⟩,
    ⟨.pixelFormat, .enum s.format.name, false⟩,
    ⟨.frameRateEnable, .bool true, true⟩,
    ⟨.frameRate, .float s.rate, false⟩]

namespace Transport

variable {W : Type} (t : Transport W) (c : ConnectionId)

/-- The value of a feature, if the device answers. -/
def peek (f : Feature) (w : W) : Option FeatureValue × W :=
  match t.getFeature c f.name w with
  | (.ok v, w) => (some v, w)
  | (.error _, w) => (none, w)

def readSettings (w : W) : Settings × W :=
  let (width, w) := t.peek c .width w
  let (height, w) := t.peek c .height w
  let (format, w) := t.peek c .pixelFormat w
  let (rate, w) := t.peek c .frameRate w
  let side (v : Option FeatureValue) : UInt32 := ((v.bind (·.asInt?)).bind size32?).getD 0
  (⟨side width, side height,
    ((format.bind (·.asWord?)).map PixelFormat.parse).getD .mono8,
    (rate.bind (·.asFloat?)).getD 0.0⟩, w)

/-- Write a feature; the answer is the value it had before. -/
def replace (f : Feature) (v : FeatureValue) : Call W FeatureValue := fun w =>
  match t.getFeature c f.name w with
  | (.error e, w) => (.error e, w)
  | (.ok old, w) =>
    match t.setFeature c f.name v w with
    | (.error e, w) => (.error e, w)
    | (.ok (), w) => (.ok old, w)

/-- Put values back, from the first of the list on, whether the device takes
them or not. -/
def putBack : List (Feature × FeatureValue) → W → W
  | [], w => w
  | (f, old) :: rest, w => putBack rest (t.setFeature c f.name old w).2

/-- Make writes one after the other. `replaced` holds what the writes before
them replaced, the latest first. -/
def applyWrites : List FeatureWrite → List (Feature × FeatureValue) → Call W Unit
  | [], _, w => (.ok (), w)
  | x :: rest, replaced, w =>
    match t.replace c x.feature x.value w with
    | (.ok old, w) => applyWrites rest ((x.feature, old) :: replaced) w
    | (.error e, w) =>
      match e, x.optional with
      | .featureUnsupported _, true => applyWrites rest replaced w
      | _, _ => (.error e, t.putBack c replaced w)

/-- Write a configuration, all of it or nothing. -/
def applySettings (s : Settings) : Call W Unit := t.applyWrites c s.writes []

end Transport
end FrameGrabber
