/-!
# Pixel formats

A camera names the layout of its payloads. Nine names are known here; every
other name is kept as it was given, so that reading a name never fails and a
device may advertise what it likes.

Three formats have an older spelling besides their own. It is read as the same
format, and writing always gives the spelling of today: reading is therefore
not injective, and `IsCanonical` singles out the values that reading can
produce.
-/

namespace FrameGrabber

/-- The layout of a raw payload. -/
inductive PixelFormat where
  | mono8
  | mono16
  | bayerRG8
  | bayerGR8
  | bayerGB8
  | bayerBG8
  | rgb8
  | bgr8
  | yuv422
  /-- A name without a meaning here. -/
  | other (name : String)
  deriving DecidableEq, Repr, Inhabited

namespace PixelFormat

/-- The name as a device spells it today. -/
def name : PixelFormat → String
  | mono8 => "Mono8"
  | mono16 => "Mono16"
  | bayerRG8 => "BayerRG8"
  | bayerGR8 => "BayerGR8"
  | bayerGB8 => "BayerGB8"
  | bayerBG8 => "BayerBG8"
  | rgb8 => "RGB8"
  | bgr8 => "BGR8"
  | yuv422 => "YUV422_8"
  | other name => name

/-- Read a name; the older spellings end in `Packed`. -/
def parse (s : String) : PixelFormat :=
  match s with
  | "Mono8" => mono8
  | "Mono16" => mono16
  | "BayerRG8" => bayerRG8
  | "BayerGR8" => bayerGR8
  | "BayerGB8" => bayerGB8
  | "BayerBG8" => bayerBG8
  | "RGB8" => rgb8
  | "RGB8Packed" => rgb8
  | "BGR8" => bgr8
  | "BGR8Packed" => bgr8
  | "YUV422_8" => yuv422
  | "YUV422Packed" => yuv422
  | unknown => .other unknown

/-- Bytes that one pixel takes in a payload, where that is known. -/
def bytesPerPixel? : PixelFormat → Option Nat
  | mono8 | bayerRG8 | bayerGR8 | bayerGB8 | bayerBG8 => some 1
  | mono16 | yuv422 => some 2
  | rgb8 | bgr8 => some 3
  | other _ => none

/-- A format is canonical when reading its name gives it back. Only an `other`
that carries a known spelling is not. -/
def IsCanonical (f : PixelFormat) : Prop := parse f.name = f

instance (f : PixelFormat) : Decidable f.IsCanonical :=
  inferInstanceAs (Decidable (parse f.name = f))

end PixelFormat
end FrameGrabber
