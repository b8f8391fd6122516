import FrameGrabber.Buffer
import FrameGrabber.Span

/-!
# What can go wrong

Every failure of the acquisition core is one of the causes below. A cause
carries what its message needs and nothing else; the wording stands in one
place per type.

The frame loop absorbs four kinds of failure, those that concern a single frame
and say nothing about the next one. They are the *transient* ones; any other
ends the loop.
-/

namespace FrameGrabber

/-- Failures of a running or missing acquisition. -/
inductive AcquisitionFault where
  | notStreaming
  | alreadyStreaming
  | buffer (status : BufferStatus)
  | streamClosed
  deriving DecidableEq, Repr, Inhabited

def AcquisitionFault.message : AcquisitionFault → String
  | notStreaming => "acquisition is not running"
  | alreadyStreaming => "acquisition is already running"
  | buffer status => s!"hardware reported buffer status {status.name}"
  | streamClosed => "stream channel closed"

/-- A failure of the camera, of the way to it, or of its use. -/
inductive CameraError where
  /-- The device is unreachable, or its descriptor describes nothing. -/
  | connection (reason : String)
  | alreadyConnected (device : String)
  | sessionClosed
  | notConnected
  | featureUnsupported (name : String)
  | featureReadOnly (name : String)
  | invalidFeatureValue (name reason : String)
  /-- The device does not advertise the format that was asked for. -/
  | unsupportedFormat (format : PixelFormat)
  /-- The decoder has no rule for the format of a payload. -/
  | unsupportedPixelFormat (format : PixelFormat)
  | payloadTooShort (expected actual : Nat)
  | acquisition (fault : AcquisitionFault)
  /-- No frame came in time: expected now and then, and not fatal. -/
  | timeout (waited : Span)
  | transport (reason : String)
  deriving DecidableEq, Repr, Inhabited

namespace CameraError

def message : CameraError → String
  | connection reason => s!"connection error: {reason}"
  | alreadyConnected device => s!"session is already connected to {device}"
  | sessionClosed => "session is closed"
  | notConnected => "session is not connected to a device"
  | featureUnsupported name => s!"feature `{name}` is not supported by the device"
  | featureReadOnly name => s!"feature `{name}` is read-only"
  | invalidFeatureValue name reason => s!"invalid value for feature `{name}`: {reason}"
  | unsupportedFormat format => s!"pixel format {format.name} is not advertised by the device"
  | unsupportedPixelFormat format => s!"cannot decode pixel format {format.name}"
  | payloadTooShort expected actual =>
    s!"payload of {actual} bytes is too short for the frame geometry ({expected} bytes)"
  | acquisition fault => s!"acquisition error: {fault.message}"
  | timeout waited => s!"no frame within {waited.text}"
  | transport reason => s!"transport error: {reason}"

/-- Does the failure concern one frame only? -/
def isTransient : CameraError → Bool
  | timeout _ => true
  | acquisition (.buffer _) => true
  | unsupportedPixelFormat _ => true
  | payloadTooShort _ _ => true
  | _ => false

end CameraError
end FrameGrabber
