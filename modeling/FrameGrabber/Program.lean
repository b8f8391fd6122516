import FrameGrabber.Configuration.Load
import FrameGrabber.Storage
import FrameGrabber.Streaming

/-!
# The programs

There are two: one lists the cameras that the configured transport can see, the
other streams from one of them. What a program is told, and what it leaves
behind, are values here; the files and the terminal are somebody else's.
-/

namespace FrameGrabber

/-- Why a program failed. -/
inductive Failure where
  | config (e : ConfigError)
  | camera (e : CameraError)
  /-- The directory for the snapshots cannot be made. -/
  | storage (e : StorageError)
  deriving DecidableEq, Repr, Inhabited

def Failure.message : Failure → String
  | config e => e.message
  | camera e => e.message
  | storage e => e.message

/-- The lines of a text, and what follows the last line end. A line ends with a line
feed, or a carriage return and a line feed. -/
def splitLines : List Char → List (List Char)
  | [] => [[]]
  | '\n' :: rest => [] :: splitLines rest
  | '\r' :: '\n' :: rest => [] :: splitLines rest
  | c :: rest =>
    match splitLines rest with
    | [] => [[c]]
    | line :: more => (c :: line) :: more

/-- What a terminal shows as the lines of printed texts, which may hold line ends
themselves. -/
def shownLines (texts : List String) : List String :=
  (splitLines (texts.flatMap fun t => t.toList ++ ['\n'])).dropLast.map String.ofList

def Failure.headline (f : Failure) : String := (shownLines [f.message]).headD ""

namespace Program

/-- What a program is told, by a file, if there is one, and by the environment, and
what it finds of files and directories. -/
structure Surroundings where
  file : Option ConfigFile := none
  environment : List (String × String) := []
  storage : Storage := {}
  deriving Repr, Inhabited

/-- The configuration that the surroundings make. -/
def Surroundings.configuration (s : Surroundings) : Except Failure Configuration :=
  (Configuration.load s.file s.environment).mapError .config

def listing (devices : List Descriptor) : List String :=
  s!"Found {devices.length} camera(s):" ::
    devices.zipIdx.flatMap fun (d, i) => [s!"  [{i}] {d.text}", s!"      id: {d.transportId}"]

def list (s : Surroundings) : Except Failure (List String) := do
  let c ← s.configuration
  let network ← (c.transport.kind.network c.transport.sim.cameras).mapError .camera
  let devices ← (Network.transport.enumerate network).1.mapError .camera
  return listing devices

def prepare (s : Surroundings) : Except Failure (Configuration × Streaming.Production) := do
  let c ← s.configuration
  return (c, ← (Streaming.prepare c).mapError .camera)

/-- Stream for so many rounds at most, and only until so many snapshots are
saved if that is said. -/
def run (c : Configuration) (p : Streaming.Production) (snapshots : Option Nat) (rounds : Nat) :
    Except Failure (Studio Crew) :=
  let enough (w : Studio Crew) : Bool :=
    match snapshots with
    | some n => n ≤ (Streaming.saved w).length
    | none => false
  (Streaming.finish c (Streaming.run c enough rounds p)).mapError .camera

/-- What a streaming run leaves behind. -/
structure Footage where
  configuration : Configuration
  studio : Studio Crew
  storage : Storage

/-- Stream. The directory for the snapshots is made when the camera already
streams. -/
def stream (s : Surroundings) (snapshots : Option Nat) (rounds : Nat) : Except Failure Footage := do
  let (c, p) ← prepare s
  let storage ← (s.storage.makeDirectories c.snapshot.outputDir).mapError .storage
  return ⟨c, ← run c p snapshots rounds, storage⟩

end Program
end FrameGrabber
