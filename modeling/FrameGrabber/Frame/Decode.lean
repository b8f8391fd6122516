import FrameGrabber.Error
import FrameGrabber.Frame
import FrameGrabber.Frame.Mosaic

/-!
# From payloads to RGB frames

Four formats are decoded: plain and mosaic bytes, one to a pixel, and the two
orders of triples. Anything else is refused before the payload is looked at.
Of a payload only the bytes that the geometry needs are used; a shorter one is
refused with both lengths.

The lengths are 64-bit words. The product of two 32-bit sides always fits. With the
further factor three it may not; then it wraps, or the program panics if it was built
to check its arithmetic. However it was built it panics where a frame of three bytes to a
pixel is more than memory can have; a payload of one byte to a pixel may be large enough
for that.
-/

namespace FrameGrabber

/-- Each byte three times. -/
def grayToRgb (gray : Bytes) : Bytes := gray.flatMap fun v => #[v, v, v]

/-- Every whole triple reversed; one or two bytes left over are dropped. -/
def swapRedBlue (bytes : Bytes) : Bytes :=
  Array.ofFn fun i : Fin (bytes.size / 3 * 3) =>
    bytes.getD (i.val / 3 * 3 + (2 - i.val % 3)) 0

/-- Every whole triple followed by an opaque alpha byte. -/
def rgbToRgba (rgb : Bytes) : Bytes :=
  Array.ofFn fun i : Fin (rgb.size / 3 * 4) =>
    if i.val % 4 < 3 then rgb.getD (i.val / 4 * 3 + i.val % 4) 0 else 255

/-- Bytes that a picture of so many pixels takes in a payload. -/
def PixelFormat.needed? (format : PixelFormat) (pixels : Nat) : Option Nat :=
  match format with
  | mono8 | bayerRG8 => some pixels
  | rgb8 | bgr8 => some (3 * pixels)
  | _ => none

def leading (payload : Bytes) (needed : UInt64) : Except CameraError Bytes :=
  if needed.toNat ≤ payload.size then .ok (payload.extract 0 needed.toNat)
  else .error (.payloadTooShort needed.toNat payload.size)

def decodePixels (payload : Bytes) (width height : UInt32) (format : PixelFormat) :
    Except CameraError Bytes :=
  let pixels := width.toUInt64 * height.toUInt64
  match format with
  | .mono8 => grayToRgb <$> leading payload pixels
  | .bayerRG8 =>
    (Mosaic.demosaic · width.toNat height.toNat) <$> leading payload pixels
  | .rgb8 => leading payload (pixels * 3)
  | .bgr8 => swapRedBlue <$> leading payload (pixels * 3)
  | other => .error (.unsupportedPixelFormat other)

def decodeFrame (payload : Bytes) (width height : UInt32) (format : PixelFormat)
    (sequence : Nat) (now : Instant) : Except CameraError Frame :=
  return ⟨width, height, .rgb8, ← decodePixels payload width height format, sequence, now⟩

/-- Decode as a program does that was built so. It counts the bytes that the geometry
needs, where the format is one that is decoded, and needs room for those of the frame. -/
def decodeFrame? (b : Build) (payload : Bytes) (width height : UInt32) (format : PixelFormat)
    (sequence : Nat) (now : Instant) : Option (Except CameraError Frame) :=
  let needed := (format.needed? (width.toNat * height.toNat)).getD 0
  match decodeFrame payload width height format sequence now with
  | .ok f => b.count? needed (.ok f) >>= room? f.data.size
  | .error e => b.count? needed (.error e)

section

variable {b : Build} {payload : Bytes} {width height : UInt32} {format : PixelFormat}
  {sequence : Nat} {now : Instant}

/-- The two things that the decoder panics over. -/
theorem decodeFrame?_eq_none_iff :
    decodeFrame? b payload width height format sequence now = none ↔
      (b = .checked ∧ UInt64.size ≤ (format.needed? (width.toNat * height.toNat)).getD 0) ∨
        ∃ f, decodeFrame payload width height format sequence now = .ok f ∧
          memoryLimit < f.data.size := by
  unfold decodeFrame?
  cases decodeFrame payload width height format sequence now with
  | error e => simp [Build.count?_eq_none_iff]
  | ok f =>
      by_cases hcount : b = .checked ∧
          UInt64.size ≤ (format.needed? (width.toNat * height.toNat)).getD 0
      · simp only [Build.count?, if_pos hcount]
        exact iff_of_true rfl (.inl hcount)
      · simp [Build.count?, hcount, room?_eq_none_iff]

/-- What it answers is what the payload is decoded to. -/
theorem decodeFrame_of_decodeFrame? {answer : Except CameraError Frame}
    (h : decodeFrame? b payload width height format sequence now = some answer) :
    decodeFrame payload width height format sequence now = answer := by
  unfold decodeFrame? at h
  cases hdecoded : decodeFrame payload width height format sequence now with
  | error e =>
      rw [hdecoded] at h
      exact (Build.count?_eq_some_iff.1 h).2
  | ok f =>
      rw [hdecoded] at h
      obtain ⟨a, ha, hroom⟩ := Option.bind_eq_some_iff.1 h
      exact (Build.count?_eq_some_iff.1 ha).2.trans (room?_eq_some_iff.1 hroom).2

end

/-- Bring a frame to RGB. A frame in RGB already is returned as it is, whatever
its data. -/
def Frame.normalize (f : Frame) : Frame :=
  match f.layout with
  | .rgb8 => f
  | .bgr8 => { f with layout := .rgb8, data := swapRedBlue f.data }
  | .gray8 => { f with layout := .rgb8, data := grayToRgb f.data }

/-- Bring a frame to RGB, unless there is no room for what it comes to. -/
def Frame.normalize? (f : Frame) : Option Frame := room? f.normalize.data.size f.normalize

namespace Frame

variable {f : Frame}

theorem normalize_of_rgb8 (h : f.layout = .rgb8) : f.normalize = f := by
  rw [normalize, h]

theorem normalize_of_bgr8 (h : f.layout = .bgr8) :
    f.normalize = { f with layout := .rgb8, data := swapRedBlue f.data } := by
  rw [normalize, h]

theorem normalize_of_gray8 (h : f.layout = .gray8) :
    f.normalize = { f with layout := .rgb8, data := grayToRgb f.data } := by
  rw [normalize, h]

/-- Nothing but the layout and the data is touched. -/
theorem normalize_eq (f : Frame) :
    f.normalize = { f with layout := .rgb8, data := f.normalize.data } := by
  cases h : f.layout with
  | rgb8 => rw [normalize_of_rgb8 h, ← h]
  | bgr8 => rw [normalize_of_bgr8 h]
  | gray8 => rw [normalize_of_gray8 h]

theorem normalize_layout (f : Frame) : f.normalize.layout = .rgb8 := by
  rw [normalize_eq]

theorem normalize_timestamp (f : Frame) : f.normalize.timestamp = f.timestamp := by
  rw [normalize_eq]

theorem normalize_sequence (f : Frame) : f.normalize.sequence = f.sequence := by
  rw [normalize_eq]

end Frame
end FrameGrabber
