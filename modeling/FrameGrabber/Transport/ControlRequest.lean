import FrameGrabber.Transport

/-!
# Requests on a control connection

Who holds a connection can write a feature or execute a command, each by a name that
the device may know or not. A request is refused or granted, and the next one finds
the device as this one left it. Whether a device acquires is decided by the commands
alone: the last one that started or stopped the acquisition says it.
-/

namespace FrameGrabber

/-- What a command makes of the acquisition. -/
def Command.acquires : Command → Bool
  | acquisitionStart => true
  | acquisitionStop => false

/-- One request on a control connection. -/
inductive ControlRequest where
  | set (feature : String) (value : FeatureValue)
  | execute (command : String)
  deriving Repr

namespace ControlRequest

variable {W : Type}

def send (t : Transport W) (c : ConnectionId) : ControlRequest → Call W Unit
  | set feature value => t.setFeature c feature value
  | execute command => t.execute c command

/-- The world after requests, whatever became of each. -/
def sendAll (t : Transport W) (c : ConnectionId) (requests : List ControlRequest) (w : W) : W :=
  requests.foldl (fun w q => (q.send t c w).2) w

/-- Does a device acquire after a request? -/
def acquires (acquiring : Bool) : ControlRequest → Bool
  | set .. => acquiring
  | execute command => ((Command.ofName? command).map Command.acquires).getD acquiring

/-- Does a device that was at rest acquire after all these requests? -/
def leavesAcquiring (requests : List ControlRequest) : Bool := requests.foldl acquires false

end ControlRequest
end FrameGrabber
