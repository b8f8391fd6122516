import FrameGrabber.Sim.Stream
import FrameGrabber.Transport

/-!
# A network of simulated cameras

The network has a clock of its own, which moves only when somebody waits: for a
frame, or just so. Calls themselves take no time. Each connection has its own
registers, so two connections to one camera do not see each other, and each
stream has its own camera behind it, running whenever its connection acquires.
-/

namespace FrameGrabber

/-- An open connection to a camera. -/
structure Link where
  camera : Camera
  registers : Registers
  acquiring : Bool := false
  deriving Repr

/-- The cameras, and all that has been opened on them. -/
structure Network where
  cameras : List Camera
  now : Instant := 0
  links : List Link := []
  streams : List SimStream := []
  deriving Repr

namespace Network

/-- Let every camera run up to an instant, which becomes the present. -/
def advance (n : Network) (until' : Instant) : Network :=
  let run (s : SimStream) : SimStream :=
    match n.links[s.connection]? with
    | some l => s.advance l.camera l.registers until'
    | none => s
  { n with now := until', streams := n.streams.map run }

/-- The camera that a descriptor stands for: the first with its transport id and
its serial number. -/
def find? (n : Network) (d : Descriptor) : Option Camera :=
  n.cameras.find? fun c => c.transportId = d.transportId && c.serial = d.serial

/-- List the cameras, in or out of reach. -/
def enumerate (n : Network) : List Descriptor := n.cameras.map Camera.descriptor

def connect (d : Descriptor) : Call Network ConnectionId := fun n =>
  match n.find? d with
  | none => (.error (.connection s!"stale descriptor: {d.transportId}"), n)
  | some c =>
    if c.reachable then
      (.ok n.links.length,
        { n with links := n.links ++ [{ camera := c, registers := Registers.initial c }] })
    else
      let place := c.address.getD "unknown address"
      (.error (.connection s!"{d.text} at {place} is unreachable (wrong subnet?)"), n)

/-- Call on a connection; one that was never opened is not connected. -/
def onLink {α : Type} (c : ConnectionId) (f : Link → Except CameraError (α × Link)) :
    Call Network α := fun n =>
  match n.links[c]? with
  | none => (.error .notConnected, n)
  | some l =>
    match f l with
    | .error e => (.error e, n)
    | .ok (a, l) => (.ok a, { n with links := n.links.set c l })

def getFeature (c : ConnectionId) (name : String) : Call Network FeatureValue :=
  onLink c fun l =>
    match Feature.ofName? name with
    | some f => .ok (l.registers.read l.camera f, l)
    | none => .error (.featureUnsupported name)

def setFeature (c : ConnectionId) (name : String) (v : FeatureValue) : Call Network Unit :=
  onLink c fun l =>
    match Feature.ofName? name with
    | none => .error (.featureUnsupported name)
    | some f =>
      match l.registers.write l.camera l.acquiring f v with
      | .ok registers => .ok ((), { l with registers })
      | .error e => .error e

def featureOptions (c : ConnectionId) (name : String) : Call Network (List String) :=
  onLink c fun l =>
    match Feature.ofName? name with
    | some .pixelFormat => .ok (l.camera.formats.map PixelFormat.name, l)
    | some .acquisitionMode => .ok (acquisitionModes, l)
    | _ => .error (.featureUnsupported name)

/-- Start or stop the acquisition of a connection. Its cameras begin to run now,
if they were at rest, or come to rest. -/
def setAcquiring (c : ConnectionId) (acquiring : Bool) (n : Network) : Network :=
  let turn (s : SimStream) : SimStream :=
    if s.connection = c then
      { s with due := if acquiring then some (s.due.getD n.now) else none }
    else s
  { n with
    links := n.links.modify c fun l => { l with acquiring }
    streams := n.streams.map turn }

def execute (c : ConnectionId) (name : String) : Call Network Unit := fun n =>
  match Command.ofName? name with
  | some .acquisitionStart => (.ok (), n.setAcquiring c true)
  | some .acquisitionStop => (.ok (), n.setAcquiring c false)
  | none => (.error (.featureUnsupported name), n)

/-- Bytes of a payload with the present registers. -/
def payloadSize (c : ConnectionId) : Call Network Nat :=
  onLink c fun l => .ok (l.registers.payloadSize.toNat, l)

/-- Is that a product that does not fit into a word? -/
def overflows (c : ConnectionId) (n : Network) : Bool :=
  n.links[c]?.any fun l => (l.registers.payloadSize? .checked).isNone

def createStream (c : ConnectionId) : Call Network StreamId := fun n =>
  let acquiring := (n.links[c]?.map (·.acquiring)).getD false
  let due := if acquiring then some n.now else none
  (.ok n.streams.length, { n with streams := n.streams ++ [{ connection := c, due }] })

def enqueue (id : StreamId) (b : Buffer) (n : Network) : Network :=
  { n with streams := n.streams.modify id (·.enqueue b) }

def take (id : StreamId) (n : Network) : Option Buffer × Network :=
  match n.streams[id]? with
  | none => (none, n)
  | some s =>
    let (b, s) := s.take
    (b, { n with streams := n.streams.set id s })

/-- Has the camera behind a stream broken down? -/
def broken (id : StreamId) (n : Network) : Bool := (n.streams[id]?.map (·.broken)).getD false

/-- Wait for a filled buffer: until one is there, until the camera breaks down, or
until the time is up. -/
def dequeue (id : StreamId) (timeout : Span) : Call Network Buffer := fun n =>
  let n := n.advance n.now
  match n.take id with
  | (some b, n) => (.ok b, n)
  | (none, n) =>
    if n.broken id then (.error (.acquisition .streamClosed), n)
    else
      let deadline := n.now + timeout
      let filled := (n.streams[id]?.bind (·.nextFill?)).filter (· ≤ deadline)
      match (n.advance (filled.getD deadline)).take id with
      | (some b, n) => (.ok b, n)
      | (none, n) =>
        (.error (if n.broken id then .acquisition .streamClosed else .timeout timeout), n)

def flush (id : StreamId) (n : Network) : List Buffer × Network :=
  match n.streams[id]? with
  | none => ([], n)
  | some s =>
    let (bs, s) := s.flush
    (bs, { n with streams := n.streams.set id s })

/-- A stream that is gone runs no longer and holds nothing. -/
def releaseStream (id : StreamId) (n : Network) : Network :=
  { n with streams := n.streams.modify id fun s => { s with input := [], output := [], due := none } }

/-- The clock of the network. A wait of some length is over after as many
readings as it has nanoseconds, since every pass of a waiting loop takes one at
least. -/
def clock : Clock Network where
  now n := (n.now, n)
  sleep span n := n.advance (n.now + span)
  patience span n := span + (n.streams.flatMap fun s => s.input ++ s.output).length

def transport : Transport Network where
  name := "sim"
  clock := clock
  enumerate n := (.ok n.enumerate, n)
  connect := connect
  getFeature := getFeature
  setFeature := setFeature
  featureOptions := featureOptions
  execute := execute
  payloadSize := payloadSize
  overflows := overflows
  createStream := createStream
  channel id := ⟨enqueue id, dequeue id, flush id⟩
  releaseStream := releaseStream
  releaseConnection c := setAcquiring c false

end Network
end FrameGrabber
