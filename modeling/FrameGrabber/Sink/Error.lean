/-!
# What a consumer can refuse

A consumer's failure concerns one frame and never reaches the camera: the frame
loop notes it and goes on.
-/

namespace FrameGrabber

/-- Why a consumer or a track refused a frame. -/
inductive SinkError where
  /-- The publishing side is gone. -/
  | publisherGone
  /-- The pixels do not fill the geometry the frame claims. -/
  | wrongSize (sequence actual expected : Nat)
  /-- Too few pixels for an image file. -/
  | shortBuffer (sequence : Nat)
  | zeroWidth
  | zeroHeight
  /-- Any other refusal, in the refuser's own words. -/
  | refused (reason : String)
  deriving DecidableEq, Repr, Inhabited

def SinkError.message : SinkError → String
  | publisherGone => "publisher task has exited"
  | wrongSize sequence actual expected =>
    s!"frame {sequence} has {actual} bytes, expected {expected}"
  | shortBuffer sequence => s!"frame {sequence} has a short buffer"
  | zeroWidth => "Zero width not allowed"
  | zeroHeight => "Zero height not allowed"
  | refused reason => reason

end FrameGrabber
