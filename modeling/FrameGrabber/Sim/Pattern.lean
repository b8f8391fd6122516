import FrameGrabber.Frame.Mosaic

/-!
# The scene every simulated sensor looks at

Eight colour bars stand side by side and move one column to the left with every
tick. A sensor reports them in its own format: as triples in either order, or
through the mosaic. The plain formats show a diagonal ramp instead, and a
format without a meaning here an even grey.
-/

namespace FrameGrabber
namespace Pattern

def bars : Array (Array UInt8) :=
  #[#[255, 255, 255], #[255, 255, 0], #[0, 255, 255], #[0, 255, 0],
    #[255, 0, 255], #[255, 0, 0], #[0, 0, 255], #[0, 0, 0]]

/-- The bar that column `x` of an image shows at a tick. -/
def barIndex (x width tick : Nat) : Nat :=
  (x + tick) % max width 1 * bars.size / max width 1

def scene (x width tick : Nat) : Array UInt8 := bars.getD (barIndex x width tick) #[]

def sceneChannel (x width tick channel : Nat) : UInt8 := (scene x width tick).getD channel 0

def byteAt (format : PixelFormat) (width tick x y k : Nat) : UInt8 :=
  match format with
  | .mono8 => (x + y + tick).toUInt8
  | .mono16 =>
    let level : UInt16 := (x + y + tick).toUInt16 * 64
    if k = 0 then level.toUInt8 else (level >>> 8).toUInt8
  | .bayerRG8 => sceneChannel x width tick (Mosaic.sampled x y).index
  | .rgb8 => sceneChannel x width tick k
  | .bgr8 => sceneChannel x width tick (2 - k)
  | _ => 0x80

def payload (format : PixelFormat) (width height tick : Nat) : Bytes :=
  let size := format.bytesPerPixel?.getD 1
  Array.ofFn fun i : Fin (width * height * size) =>
    let pixel := i.val / size
    byteAt format width tick (pixel % width) (pixel / width) (i.val % size)

end Pattern
end FrameGrabber
