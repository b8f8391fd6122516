import FrameGrabber.Frame.Decode
import FrameGrabber.Sink.Error

/-!
# Snapshots on demand

Anyone may ask for a snapshot; each request is served by one delivered frame,
the next that comes. Frames are handed to a writer, which turns them into
images in the order in which they came and finishes all of them before it
ends.
-/

namespace FrameGrabber

/-- An RGB image. -/
structure Image where
  width : UInt32
  height : UInt32
  pixels : Bytes
  deriving DecidableEq, Repr, Inhabited

/-- The image of a frame of any layout. Pixels beyond the geometry are cut off,
too few are refused, and so is an image without an extent. -/
def Image.ofFrame (f : Frame) : Except SinkError Image :=
  let data := f.normalize.data
  let needed := f.width.toNat * f.height.toNat * 3
  if data.size < needed then .error (.shortBuffer f.sequence)
  else if f.width = 0 then .error .zeroWidth
  else if f.height = 0 then .error .zeroHeight
  else .ok ⟨f.width, f.height, data.extract 0 needed⟩

/-- Open requests, and the frames handed to the writer so far. -/
structure Snapshots where
  pending : Nat := 0
  handed : List Frame := []
  deriving Repr

namespace Snapshots

def request (s : Snapshots) : Snapshots := { s with pending := s.pending + 1 }

/-- A frame is delivered: it serves a request if one is open. -/
def deliver (s : Snapshots) (f : Frame) : Snapshots :=
  if s.pending = 0 then s
  else { s with pending := s.pending - 1, handed := s.handed ++ [f] }

/-- What the writer leaves behind, in order: each frame with its image, or the
reason there is none. -/
def written (s : Snapshots) : List (Frame × Except SinkError Image) :=
  s.handed.map fun f => (f, Image.ofFrame f)

end Snapshots
end FrameGrabber
