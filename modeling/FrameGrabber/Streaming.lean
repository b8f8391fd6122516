import FrameGrabber.Configuration
import FrameGrabber.Studio

/-!
# Streaming a camera to a track

A streaming run opens the configured camera, configures and starts it, and lets
the frame loop feed the snapshots, the publisher and the preview, those of them
that are enabled, until somebody stops it. The publisher's track counts the
frames; its side gets its turn whenever the loop waits for a frame.
-/

namespace FrameGrabber

/-- The session of a streaming run, and what its track has taken. -/
structure Crew where
  session : Session Network
  published : Nat := 0

namespace Streaming

/-- The clock of the run is that of the camera's network. -/
def clock : Clock Crew :=
  let c := Session.clock Network.transport
  { now := fun s => let (i, session) := c.now s.session; (i, { s with session })
    sleep := fun span s => { s with session := c.sleep span s.session }
    patience := fun span s => c.patience span s.session }

def grab (timeout : Span) : Call Crew Frame := fun s =>
  let (r, session) := Session.grab Network.transport timeout s.session
  (r, { s with session })

def track (c : Configuration) : Track Crew :=
  .counting c.publisher.trackName fun s => { s with published := s.published + 1 }

def governor (c : Configuration) : Option Governor := c.loop.targetRate.bind Governor.ofRate?

/-- The sinks, in the order in which they are fed. -/
def sinks (c : Configuration) : List Sink :=
  let store : Snapshots := {}
  let publisher := if c.publisher.enabled then [Sink.publisher (.new c.publisher.queueDepth)] else []
  let preview := if c.display.enabled then [Sink.preview (.new c.display.ringSize)] else []
  .snapshot (if c.snapshot.onStart then store.request else store) :: publisher ++ preview

def startCamera (c : Configuration) : Except CameraError (Session Network) := do
  let t := Network.transport
  let network ← c.transport.kind.network c.transport.sim.cameras
  let session ← (Session.establish t c.capture.selector c.capture.sessionOptions network).1
  let start : SessionM Network Unit := do
    Session.configure t c.capture.width c.capture.height c.capture.format c.capture.rate
    Session.startAcquisition t
  match start session with
  | (.ok (), session) => return session
  | (.error e, _) => .error e

/-- A frame loop with all its consumers, and the world it runs in. -/
abbrev Production := Pipeline (Studio Crew) × Studio Crew

def prepare (c : Configuration) : Except CameraError Production := do
  let session ← startCamera c
  let loop : Pipeline (Studio Crew) :=
    { grabTimeout := c.capture.grabTimeout, governor := governor c }
  let install (p : Production) (sink : Sink) : Production :=
    let (consumer, w) := p.2.install sink
    (p.1.register consumer, w)
  return (sinks c).foldl install (loop, { source := { session } })

/-- Where the loop's frames come from. It also stops when `enough` says so. -/
def source (c : Configuration) (enough : Studio Crew → Bool) : FrameSource (Studio Crew) :=
  let frames := Studio.frames grab clock
  { frames with
    grab := fun timeout w => frames.grab timeout (w.attend (track c) clock (governor c))
    stopped := fun w => frames.stopped w || enough w }

def run (c : Configuration) (enough : Studio Crew → Bool) (rounds : Nat) (p : Production) :
    Studio Crew :=
  (Pipeline.run (source c enough) rounds 0 p.1 p.2).2.2

/-- Stop the camera, release it, and let the track have what still waits. -/
def finish (c : Configuration) (w : Studio Crew) : Except CameraError (Studio Crew) := do
  let t := Network.transport
  let stop : SessionM Network Unit := do
    Session.stopAcquisition t
    Session.disconnect t
  match stop w.source.session with
  | (.ok (), session) =>
    let w := { w with source := { w.source with session } }
    return w.attend (track c) clock (governor c)
  | (.error e, _) => .error e

/-- Frames that have been handed to the writers of snapshots. -/
def saved (w : Studio Crew) : List Frame := w.snapshots.flatMap (·.handed)

end Streaming
end FrameGrabber
