import FrameGrabber.Document.Dialect
import FrameGrabber.Session
import FrameGrabber.Transport.Kind

/-!
# The documents of the camera's values

Formats and enumerations are written as their names, a choice between values of
different types as a table of one entry, and a record as a table of its fields.
A simulated camera leaves out what it has in common with the usual one.
-/

namespace FrameGrabber

instance : Documented PixelFormat where
  write f := .text f.name
  read dialect d := PixelFormat.parse <$> Documented.read dialect d

instance : Documented TransportKind where
  write k := .text k.name
  read dialect d := d.choose dialect "TransportKind" TransportKind.names

namespace Layout

def name : Layout → String
  | rgb8 => "Rgb8"
  | bgr8 => "Bgr8"
  | gray8 => "Gray8"

def names : List (String × Layout) := [rgb8, bgr8, gray8].map fun l => (l.name, l)

end Layout

instance : Documented Layout where
  write l := .text l.name
  read dialect d := d.choose dialect "FrameLayout" Layout.names

namespace Acquisition

def name : Acquisition → String
  | idle => "Idle"
  | configuring => "Configuring"
  | streaming => "Streaming"
  | stopping => "Stopping"

def names : List (String × Acquisition) :=
  [idle, configuring, streaming, stopping].map fun a => (a.name, a)

end Acquisition

instance : Documented Acquisition where
  write a := .text a.name
  read dialect d := d.choose dialect "AcquisitionState" Acquisition.names

instance : Documented Selector where
  write
    | .index n => .table [("Index", Documented.write n)]
    | .serial s => .table [("Serial", Documented.write s)]
  read dialect d := do
    let (name, value) ← d.alternative
    match name with
    | "Index" => Selector.index <$> Documented.read dialect value
    | "Serial" => Selector.serial <$> Documented.read dialect value
    | _ => .error { mismatch := .unknownName "DeviceSelector" name }

instance : Documented FeatureValue where
  write
    | .int v => .table [("Int", Documented.write v)]
    | .float v => .table [("Float", Documented.write v)]
    | .bool v => .table [("Bool", Documented.write v)]
    | .enum v => .table [("Enum", Documented.write v)]
    | .string v => .table [("String", Documented.write v)]
  read dialect d := do
    let (name, value) ← d.alternative
    match name with
    | "Int" => FeatureValue.int <$> Documented.read dialect value
    | "Float" => FeatureValue.float <$> Documented.read dialect value
    | "Bool" => FeatureValue.bool <$> Documented.read dialect value
    | "Enum" => FeatureValue.enum <$> Documented.read dialect value
    | "String" => FeatureValue.string <$> Documented.read dialect value
    | _ => .error { mismatch := .unknownName "FeatureValue" name }

instance : Documented Settings where
  write s :=
    .table [("width", Documented.write s.width), ("height", Documented.write s.height),
      ("pixel_format", Documented.write s.format), ("frame_rate", Documented.write s.rate)]
  read dialect d := do
    let f ← Fields.of dialect "StreamSettings" ["width", "height", "pixel_format", "frame_rate"] d
    return {
      width := ← f.get "width" none
      height := ← f.get "height" none
      format := ← f.get "pixel_format" none
      rate := ← f.get "frame_rate" none }

/-- An address may be left out of a table. -/
instance : Documented Descriptor where
  write d :=
    .table [("vendor", Documented.write d.vendor), ("model", Documented.write d.model),
      ("serial", Documented.write d.serial), ("transport_id", Documented.write d.transportId),
      ("address", Documented.write d.address)]
  read dialect d := do
    let f ← Fields.of dialect "DeviceDescriptor"
      ["vendor", "model", "serial", "transport_id", "address"] d
    return {
      vendor := ← f.get "vendor" none
      model := ← f.get "model" none
      serial := ← f.get "serial" none
      transportId := ← f.get "transport_id" none
      address := ← f.get "address" (if f.named then some none else none) }

instance : Documented Camera where
  write c :=
    .table [("vendor", Documented.write c.vendor), ("model", Documented.write c.model),
      ("serial", Documented.write c.serial), ("address", Documented.write c.address),
      ("sensor_width", Documented.write c.sensorWidth),
      ("sensor_height", Documented.write c.sensorHeight),
      ("max_frame_rate", Documented.write c.maxFrameRate),
      ("pixel_formats", Documented.write c.formats),
      ("reachable", Documented.write c.reachable), ("fail_every", Documented.write c.failEvery)]
  read dialect d := do
    let f ← Fields.of dialect "SimCameraConfig" ["vendor", "model", "serial", "address",
      "sensor_width", "sensor_height", "max_frame_rate", "pixel_formats", "reachable",
      "fail_every"] d
    let usual : Camera := {}
    return {
      vendor := ← f.get "vendor" usual.vendor
      model := ← f.get "model" usual.model
      serial := ← f.get "serial" usual.serial
      address := ← f.get "address" (some usual.address)
      sensorWidth := ← f.get "sensor_width" usual.sensorWidth
      sensorHeight := ← f.get "sensor_height" usual.sensorHeight
      maxFrameRate := ← f.get "max_frame_rate" usual.maxFrameRate
      formats := ← f.get "pixel_formats" usual.formats
      reachable := ← f.get "reachable" usual.reachable
      failEvery := ← f.get "fail_every" (some usual.failEvery) }

end FrameGrabber
