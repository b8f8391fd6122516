import FrameGrabber.Sim.Pattern

/-!
# The picture pixel by pixel

The camera draws its picture row after row, and in a row from left to right, into the
region that it is granted. Each pixel is stored at its own place; one that would end
beyond the region cannot be stored, and then there is no picture.
-/

namespace FrameGrabber
namespace Pattern

/-- The bytes of one pixel. -/
def pixel (format : PixelFormat) (width tick x y : Nat) : Bytes :=
  Array.ofFn fun k : Fin (format.bytesPerPixel?.getD 1) => byteAt format width tick x y k

/-- Put bytes into a region from a place on, if they end within it. -/
def store? (place : Nat) (bytes region : Bytes) : Option Bytes :=
  if place + bytes.size ≤ region.size then
    some (region.extract 0 place ++ bytes ++
      region.extract (place + bytes.size) region.size)
  else none

/-- The sites of a picture in the order in which they are drawn. -/
def sites (width height : Nat) : List (Nat × Nat) :=
  (List.range height).flatMap fun y => (List.range width).map fun x => (x, y)

def paint? (format : PixelFormat) (width height tick : Nat) (region : Bytes) : Option Bytes :=
  (sites width height).foldlM (fun region (x, y) =>
    store? ((y * width + x) * format.bytesPerPixel?.getD 1) (pixel format width tick x y)
      region) region

end Pattern
end FrameGrabber
