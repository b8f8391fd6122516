import FrameGrabber.Document.Domain

/-!
# The configuration of a run

Everything that a run can be told, with a default for all of it. The parts and
their fields have the names under which files and environments set them.
-/

namespace FrameGrabber

/-- Which camera, and how to run it. -/
structure CaptureOptions where
  deviceIndex : Nat := 0
  /-- A serial number or network address, which counts before the index. -/
  serial : Option String := none
  width : UInt32 := 1280
  height : UInt32 := 720
  format : PixelFormat := .mono8
  rate : Float := 30.0
  bufferCount : Nat := defaultRingSize
  grabTimeoutMs : Nat := 1000
  drainTimeoutMs : Nat := 500
  deriving Repr, Inhabited

namespace CaptureOptions

def selector (c : CaptureOptions) : Selector :=
  match c.serial with
  | some s => .serial s
  | none => .index c.deviceIndex

def sessionOptions (c : CaptureOptions) : SessionOptions :=
  { bufferCount := c.bufferCount, drainTimeout := Span.ofMillis c.drainTimeoutMs }

def grabTimeout (c : CaptureOptions) : Span := Span.ofMillis c.grabTimeoutMs

end CaptureOptions

/-- How the frame loop runs. -/
structure LoopOptions where
  /-- The rate of deliveries; without one frames go out as they come. -/
  targetRate : Option Float := some 30.0
  /-- The processor core for the loop. -/
  core : Option Nat := none
  deriving Repr, Inhabited

/-- The simulated network. -/
structure SimOptions where
  cameras : List Camera := [{}]
  deriving Repr, Inhabited

/-- The way to the devices. -/
structure TransportOptions where
  kind : TransportKind := .sim
  sim : SimOptions := {}
  deriving Repr, Inhabited

/-- The outbound track. -/
structure PublisherOptions where
  enabled : Bool := true
  queueDepth : Nat := 2
  trackName : String := "gige-camera"
  deriving Repr, Inhabited

/-- Snapshots. -/
structure SnapshotOptions where
  outputDir : String := "recordings"
  /-- Is the first delivered frame saved? -/
  onStart : Bool := true
  deriving Repr, Inhabited

/-- The preview. -/
structure DisplayOptions where
  enabled : Bool := false
  width : UInt32 := 1280
  height : UInt32 := 720
  ringSize : Nat := 4
  deriving Repr, Inhabited

/-- All of them. -/
structure Configuration where
  capture : CaptureOptions := {}
  loop : LoopOptions := {}
  transport : TransportOptions := {}
  publisher : PublisherOptions := {}
  snapshot : SnapshotOptions := {}
  display : DisplayOptions := {}
  deriving Repr, Inhabited

instance : Documented CaptureOptions where
  write c :=
    .table [("device_index", Documented.write c.deviceIndex),
      ("serial", Documented.write c.serial), ("width", Documented.write c.width),
      ("height", Documented.write c.height), ("pixel_format", Documented.write c.format),
      ("frame_rate", Documented.write c.rate), ("buffer_count", Documented.write c.bufferCount),
      ("grab_timeout_ms", Documented.write c.grabTimeoutMs),
      ("drain_timeout_ms", Documented.write c.drainTimeoutMs)]
  read dialect d := do
    let f ← Fields.of dialect "CaptureConfig" ["device_index", "serial", "width", "height",
      "pixel_format", "frame_rate", "buffer_count", "grab_timeout_ms", "drain_timeout_ms"] d
    let usual : CaptureOptions := {}
    return {
      deviceIndex := ← f.get "device_index" usual.deviceIndex
      serial := ← f.get "serial" (some usual.serial)
      width := ← f.get "width" usual.width
      height := ← f.get "height" usual.height
      format := ← f.get "pixel_format" usual.format
      rate := ← f.get "frame_rate" usual.rate
      bufferCount := ← f.get "buffer_count" usual.bufferCount
      grabTimeoutMs := ← f.get "grab_timeout_ms" usual.grabTimeoutMs
      drainTimeoutMs := ← f.get "drain_timeout_ms" usual.drainTimeoutMs }

instance : Documented LoopOptions where
  write l :=
    .table [("target_fps", Documented.write l.targetRate), ("pin_core", Documented.write l.core)]
  read dialect d := do
    let f ← Fields.of dialect "PipelineConfig" ["target_fps", "pin_core"] d
    let usual : LoopOptions := {}
    return {
      targetRate := ← f.get "target_fps" (some usual.targetRate)
      core := ← f.get "pin_core" (some usual.core) }

instance : Documented SimOptions where
  write s := .table [("cameras", Documented.write s.cameras)]
  read dialect d := do
    let f ← Fields.of dialect "SimConfig" ["cameras"] d
    return { cameras := ← f.get "cameras" ({} : SimOptions).cameras }

instance : Documented TransportOptions where
  write t := .table [("kind", Documented.write t.kind), ("sim", Documented.write t.sim)]
  read dialect d := do
    let f ← Fields.of dialect "TransportConfig" ["kind", "sim"] d
    let usual : TransportOptions := {}
    return { kind := ← f.get "kind" usual.kind, sim := ← f.get "sim" usual.sim }

instance : Documented PublisherOptions where
  write p :=
    .table [("enabled", Documented.write p.enabled),
      ("queue_depth", Documented.write p.queueDepth), ("track_name", Documented.write p.trackName)]
  read dialect d := do
    let f ← Fields.of dialect "PublisherConfig" ["enabled", "queue_depth", "track_name"] d
    let usual : PublisherOptions := {}
    return {
      enabled := ← f.get "enabled" usual.enabled
      queueDepth := ← f.get "queue_depth" usual.queueDepth
      trackName := ← f.get "track_name" usual.trackName }

instance : Documented SnapshotOptions where
  write s :=
    .table [("output_dir", Documented.write s.outputDir), ("on_start", Documented.write s.onStart)]
  read dialect d := do
    let f ← Fields.of dialect "SnapshotConfig" ["output_dir", "on_start"] d
    let usual : SnapshotOptions := {}
    return {
      outputDir := ← f.get "output_dir" usual.outputDir
      onStart := ← f.get "on_start" usual.onStart }

instance : Documented DisplayOptions where
  write x :=
    .table [("enabled", Documented.write x.enabled), ("width", Documented.write x.width),
      ("height", Documented.write x.height), ("ring_size", Documented.write x.ringSize)]
  read dialect d := do
    let f ← Fields.of dialect "DisplayConfig" ["enabled", "width", "height", "ring_size"] d
    let usual : DisplayOptions := {}
    return {
      enabled := ← f.get "enabled" usual.enabled
      width := ← f.get "width" usual.width
      height := ← f.get "height" usual.height
      ringSize := ← f.get "ring_size" usual.ringSize }

instance : Documented Configuration where
  write c :=
    .table [("capture", Documented.write c.capture), ("pipeline", Documented.write c.loop),
      ("transport", Documented.write c.transport), ("publisher", Documented.write c.publisher),
      ("snapshot", Documented.write c.snapshot), ("display", Documented.write c.display)]
  read dialect d := do
    let f ← Fields.of dialect "Config"
      ["capture", "pipeline", "transport", "publisher", "snapshot", "display"] d
    let usual : Configuration := {}
    return {
      capture := ← f.get "capture" usual.capture
      loop := ← f.get "pipeline" usual.loop
      transport := ← f.get "transport" usual.transport
      publisher := ← f.get "publisher" usual.publisher
      snapshot := ← f.get "snapshot" usual.snapshot
      display := ← f.get "display" usual.display }

end FrameGrabber
