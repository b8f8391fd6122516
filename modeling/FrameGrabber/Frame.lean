import FrameGrabber.Buffer
import FrameGrabber.Span

/-!
# Frames

A frame owns its pixels: the buffer they came from may long be back with the
hardware. Channels are interleaved, in the order that the layout names.

Lengths are computed in 64-bit words, as the memory they describe is addressed. Where
a geometry is too large to be held at all they wrap, or the program panics if it was
built to check its arithmetic.
-/

namespace FrameGrabber

/-- Interleaved channel order. -/
inductive Layout where
  | rgb8
  | bgr8
  | gray8
  deriving DecidableEq, Repr, Inhabited

def Layout.channels : Layout → Nat
  | rgb8 | bgr8 => 3
  | gray8 => 1

/-- A decoded frame. -/
structure Frame where
  width : UInt32
  height : UInt32
  layout : Layout
  data : Bytes
  /-- Place of the frame in its stream. -/
  sequence : Nat
  /-- When the payload was decoded. -/
  timestamp : Instant
  deriving DecidableEq, Repr, Inhabited

namespace Frame

def stride (f : Frame) : UInt64 := f.width.toUInt64 * f.layout.channels.toUInt64

/-- Bytes that the geometry and the layout call for, as far as they fit into a word. -/
def expectedLength (f : Frame) : UInt64 := f.stride * f.height.toUInt64

/-- The same as a program says it that was built so. A row always fits into a word. -/
def expectedLength? (b : Build) (f : Frame) : Option UInt64 :=
  b.count? (f.stride.toNat * f.height.toNat) f.expectedLength

end Frame
end FrameGrabber
