import FrameGrabber.Decimal.Shortest

/-!
# Device features

A device is controlled through features addressed by name, each holding a value
of one of five kinds. Integers and numbers convert into each other where one is
asked for and the other is found; nothing else converts.
-/

namespace FrameGrabber

/-- The value of a feature. -/
inductive FeatureValue where
  | int (v : Int64)
  | float (v : Float)
  | bool (v : Bool)
  /-- An entry of an enumeration, for example the symbol of a pixel format. -/
  | enum (entry : String)
  | string (text : String)
  deriving Repr, Inhabited

namespace FeatureValue

/-- The value as an integer. A number is cut toward zero; one outside the
64-bit range becomes the nearest bound, and NaN becomes zero. -/
def asInt? : FeatureValue → Option Int64
  | int v => some v
  | float v => some v.toInt64
  | _ => none

/-- The value as a number. An integer becomes the nearest one. -/
def asFloat? : FeatureValue → Option Float
  | float v => some v
  | int v => some v.toFloat
  | _ => none

def asBool? : FeatureValue → Option Bool
  | bool v => some v
  | _ => none

/-- The value as a word: an enumeration entry or a text. -/
def asWord? : FeatureValue → Option String
  | enum v | string v => some v
  | _ => none

def text : FeatureValue → String
  | int v => toString v
  | float v => Decimal.floatText v
  | bool v => if v then "true" else "false"
  | enum v | string v => v

end FeatureValue

/-- The features that the acquisition core knows by name. -/
inductive Feature where
  | width
  | height
  | pixelFormat
  | frameRate
  | frameRateEnable
  | acquisitionMode
  | payloadSize
  | sensorWidth
  | sensorHeight
  | vendorName
  | modelName
  | serialNumber
  deriving DecidableEq, Repr, Inhabited

namespace Feature

/-- The name under which a device offers the feature. -/
def name : Feature → String
  | width => "Width"
  | height => "Height"
  | pixelFormat => "PixelFormat"
  | frameRate => "AcquisitionFrameRate"
  | frameRateEnable => "AcquisitionFrameRateEnable"
  | acquisitionMode => "AcquisitionMode"
  | payloadSize => "PayloadSize"
  | sensorWidth => "SensorWidth"
  | sensorHeight => "SensorHeight"
  | vendorName => "DeviceVendorName"
  | modelName => "DeviceModelName"
  | serialNumber => "DeviceSerialNumber"

def all : List Feature :=
  [width, height, pixelFormat, frameRate, frameRateEnable, acquisitionMode, payloadSize,
    sensorWidth, sensorHeight, vendorName, modelName, serialNumber]

def ofName? (s : String) : Option Feature := all.find? (·.name = s)

theorem ofName?_name (f : Feature) : ofName? f.name = some f := by
  cases f <;> decide

theorem eq_name_of_ofName? {s : String} {f : Feature} (h : ofName? s = some f) :
    s = f.name := by
  have : f.name = s := by simpa using List.find?_some h
  exact this.symm

end Feature

/-- The commands of a device. -/
inductive Command where
  | acquisitionStart
  | acquisitionStop
  deriving DecidableEq, Repr, Inhabited

namespace Command

/-- The name under which a device offers the command. -/
def name : Command → String
  | acquisitionStart => "AcquisitionStart"
  | acquisitionStop => "AcquisitionStop"

def ofName? (s : String) : Option Command :=
  [acquisitionStart, acquisitionStop].find? (·.name = s)

theorem ofName?_name (c : Command) : ofName? c.name = some c := by
  cases c <;> decide

end Command
end FrameGrabber
