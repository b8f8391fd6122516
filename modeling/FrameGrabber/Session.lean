import FrameGrabber.Engine
import FrameGrabber.Session.Settings

/-!
# A session with one camera

A session is with one device from the moment it connects until it is closed:

* idle, before it has connected;
* connected, its acquisition at rest;
* streaming, with an engine running;
* closed, for good.

Only the operations below move it between these. Reconfiguring a streaming
session stops the acquisition around the change and starts it again; whatever
fails on the way, a session that was streaming is left streaming if the device
lets it. The world behind the transport is part of the session's state, since
nobody else may use it meanwhile.

The program may panic in the middle of an operation: over a ring or a picture that is
more than memory can have, over a wait that no clock can name the end of, and, if it was
built to check its arithmetic, over a product that does not fit into a word. A session goes on
from there as if nothing had happened, but it bears a mark for good. What is said of a
session that bears one is about no program any more.
-/

namespace FrameGrabber

/-- What the acquisition is doing. -/
inductive Acquisition where
  | idle
  | configuring
  | streaming
  | stopping
  deriving DecidableEq, Repr, Inhabited

/-- Where the session as a whole is in its life. -/
inductive SessionState where
  | idle
  | connected
  | streaming
  | closed
  deriving DecidableEq, Repr, Inhabited

/-- The number of buffers in a ring unless told otherwise. -/
def defaultRingSize : Nat := 10

/-- Choices made when a session is set up. -/
structure SessionOptions where
  bufferCount : Nat := defaultRingSize
  /-- How long stopping waits for buffers that are still out. -/
  drainTimeout : Span := Span.ofMillis 500
  deriving DecidableEq, Repr, Inhabited

/-- A session and the world it acts on. -/
structure Session (W : Type) where
  world : W
  options : SessionOptions
  descriptor : Option Descriptor := none
  connection : Option ConnectionId := none
  engine : Option Engine := none
  settings : Option Settings := none
  acquisition : Acquisition := .idle
  closed : Bool := false
  /-- The counters while no engine runs; a running engine has them. -/
  counters : Counters := {}
  generations : Generations := {}
  /-- The program panicked, however it was built. -/
  panicked : Bool := false
  /-- It panicked if it was built to check its arithmetic. -/
  overflowed : Bool := false

/-- An operation of a session. One that fails keeps what it changed. -/
abbrev SessionM (W : Type) := ExceptT CameraError (StateM (Session W))

namespace Session

variable {W : Type}

def new (world : W) (options : SessionOptions) : Session W := { world, options }

def state (s : Session W) : SessionState :=
  if s.closed then .closed
  else if s.descriptor.isNone then .idle
  else if s.acquisition = .streaming then .streaming
  else .connected

/-- Width and height, zero before connecting. -/
def resolution (s : Session W) : UInt32 × UInt32 :=
  match s.settings with
  | some x => (x.width, x.height)
  | none => (0, 0)

/-- The frame rate, zero before connecting. -/
def frameRate (s : Session W) : Float :=
  match s.settings with
  | some x => x.rate
  | none => 0.0

def stats (s : Session W) : Counters :=
  match s.engine with
  | some e => e.counters
  | none => s.counters

def pool? (s : Session W) : Option Pool := s.engine.map (·.pool)

/-- Has the program panicked, if it was built so? -/
def panickedIn (b : Build) (s : Session W) : Bool := s.panicked || b = .checked && s.overflowed

end Session

namespace SessionM

variable {W α : Type}

def call (f : Call W α) : SessionM W α := fun s =>
  let (r, w) := f s.world
  (r, { s with world := w })

/-- Act on the session's world without a chance of refusal. -/
def act (f : W → α × W) : SessionM W α := fun s =>
  let (a, w) := f s.world
  (.ok a, { s with world := w })

/-- Run an operation and look at how it ended, instead of ending with it. -/
def attempt (x : SessionM W α) : SessionM W (Except CameraError α) := fun s =>
  let (r, s) := x s
  (.ok r, s)

/-- What a program that was built so answers, with the session afterwards. There is no
answer if it panics, or has panicked before. -/
def answer? (b : Build) (x : SessionM W α) (s : Session W) :
    Option (Except CameraError α × Session W) :=
  let out := x s
  if out.2.panickedIn b then none else some out

def conclude : Except CameraError α → SessionM W α
  | .ok a => pure a
  | .error e => throw e

def linked : SessionM W ConnectionId := do
  let s ← get
  if s.closed then throw .sessionClosed
  else match s.connection with
    | some c => return c
    | none => throw .notConnected

end SessionM

namespace Session

open SessionM

variable {W : Type} (t : Transport W)

/-- Connect to a device. The acquisition mode is set if the device takes it, and
the settings are read as they are. -/
def connect (d : Descriptor) : SessionM W Unit := do
  let s ← get
  if s.closed then throw .sessionClosed
  else match s.descriptor with
    | some current => throw (.alreadyConnected current.text)
    | none =>
      let c ← call (t.connect d)
      let _ ← attempt (call (t.setFeature c Feature.acquisitionMode.name (.enum "Continuous")))
      let settings ← act (t.readSettings c)
      modify fun s =>
        { s with
          counters := {}, connection := some c, descriptor := some d, settings := some settings
          acquisition := .idle }

/-- The pixel formats that the device offers at present. -/
def advertisedFormats : SessionM W (List PixelFormat) := do
  let c ← linked
  let names ← call (t.featureOptions c Feature.pixelFormat.name)
  return names.map PixelFormat.parse

def refreshSettings : SessionM W Unit := do
  let s ← get
  match s.connection with
  | none => pure ()
  | some c =>
    let settings ← act (t.readSettings c)
    modify fun s => { s with settings := some settings }

def apply (target : Settings) : SessionM W Unit := do
  let c ← linked
  call (t.applySettings c target)

/-- Take the ring of an engine back and release its stream. -/
def drainEngine (e : Engine) : SessionM W DrainReport := do
  let wait := (← get).options.drainTimeout
  modify fun s => { s with panicked := s.panicked || Engine.outlasts t.clock wait s.world }
  let report ← act (e.stop (t.channel e.stream) t.clock wait)
  act fun w => ((), t.releaseStream e.stream w)
  return report

/-- Start an engine on a new stream with a new ring. A stream that cannot be
used is released at once. -/
def startEngine (c : ConnectionId) (geometry : Geometry) : SessionM W Engine := do
  modify fun s => { s with overflowed := s.overflowed || t.overflows c s.world }
  let size ← call (t.payloadSize c)
  let stream ← call (t.createStream c)
  let s ← get
  let (started, generations, world) :=
    Engine.start (t.channel stream) stream s.options.bufferCount size geometry s.counters
      s.generations s.world
  let panicked := s.panicked || Pool.overdraws s.options.bufferCount size
  set { s with generations, world, panicked }
  match started with
  | .ok e => return e
  | .error e =>
    act fun w => ((), t.releaseStream stream w)
    throw e

/-- Queue a ring, then tell the device to stream. If the device refuses, the
ring is taken back. -/
def startAcquisition : SessionM W Unit := do
  let s ← get
  if s.acquisition = .streaming then throw (.acquisition .alreadyStreaming)
  else
    let c ← linked
    match s.settings with
    | none => throw .notConnected
    | some x =>
      let e ← startEngine t c ⟨x.width, x.height, x.format⟩
      match ← attempt (call (t.execute c Command.acquisitionStart.name)) with
      | .ok () => modify fun s => { s with engine := some e, acquisition := .streaming }
      | .error err =>
        let _ ← drainEngine t e
        throw err

/-- Tell the device to stop. The answer is what it said; with no device there is
nobody to tell. -/
def commandStop : Option ConnectionId → SessionM W (Except CameraError Unit)
  | none => pure (.ok ())
  | some c => attempt (call (t.execute c Command.acquisitionStop.name))

/-- Take the ring of the engine back, if there is one, and keep its counters. -/
def dismissEngine : Option Engine → SessionM W Unit
  | none => pure ()
  | some e => do
    modify fun s => { s with engine := none, counters := e.counters }
    let _ ← drainEngine t e

/-- Tell the device to stop and take the ring back, also from a device that
refuses to stop. Stopping an acquisition at rest does nothing. -/
def stopAcquisition : SessionM W Unit := do
  let s ← get
  if s.closed then throw .sessionClosed
  else if s.acquisition = .streaming then
    modify fun s => { s with acquisition := .stopping }
    let stopped ← commandStop t s.connection
    dismissEngine t s.engine
    modify fun s => { s with acquisition := .idle }
    conclude stopped
  else return ()

/-- Start again after an interruption, if the device lets us. -/
def resume : SessionM W Unit := do
  let _ ← attempt (startAcquisition t)

/-- Write a configuration to a device at rest, and read the settings again if it
was taken. -/
def reconfigure (target : Settings) : SessionM W (Except CameraError Unit) := do
  modify fun s => { s with acquisition := .configuring }
  let applied ← attempt (apply t target)
  modify fun s => { s with acquisition := .idle }
  match applied with
  | .ok () =>
    refreshSettings t
    return .ok ()
  | .error e => return .error e

/-- Put an earlier configuration back, if the device takes it. -/
def fallBack : Option Settings → SessionM W Unit
  | none => pure ()
  | some previous => do
    match ← attempt (apply t previous) with
    | .ok () => refreshSettings t
    | .error _ => pure ()

/-- Stream again after a change of configuration. If the device took the change
but will not stream with it, the previous settings are put back first. -/
def restart (previous : Option Settings) (applied : Except CameraError Unit) :
    SessionM W Unit := do
  match ← attempt (startAcquisition t), applied with
  | .ok (), .ok () => return ()
  | _, .error e => throw e
  | .error e, .ok () =>
    fallBack t previous
    resume t
    throw e

/-- Change the configuration.

A format that is not advertised is refused before anything is touched. A
streaming session is stopped around the change. A rejected change leaves the
previous settings; if the device takes the change but will not stream with it,
the previous settings are put back. In either case the stream is resumed. -/
def configure (width height : UInt32) (format : PixelFormat) (rate : Float) :
    SessionM W Unit := do
  let offered ← advertisedFormats t
  if offered.contains format then
    let before ← get
    if before.acquisition = .streaming then
      match ← attempt (stopAcquisition t) with
      | .ok () =>
        let applied ← reconfigure t ⟨width, height, format, rate⟩
        restart t before.settings applied
      | .error e =>
        resume t
        throw e
    else
      let applied ← reconfigure t ⟨width, height, format, rate⟩
      conclude applied
  else throw (.unsupportedFormat format)

/-- The world after a stream and a connection are let go of, where there are any. -/
def letGo (e : Option Engine) (c : Option ConnectionId) (w : W) : W :=
  let w := match e with
    | some e => t.releaseStream e.stream w
    | none => w
  match c with
  | some c => t.releaseConnection c w
  | none => w

/-- Release the device. The session cannot be used afterwards. -/
def disconnect : SessionM W Unit := do
  let s ← get
  if s.closed then throw .sessionClosed
  else
    let _ ← attempt (stopAcquisition t)
    modify fun s =>
      { s with
        world := letGo t s.engine s.connection s.world
        engine := none, connection := none, closed := true }

def grab (timeout : Span) : SessionM W Frame := fun s =>
  if s.closed then (.error .sessionClosed, s)
  else
    match s.acquisition, s.engine with
    | .streaming, some e =>
      let panicked := s.panicked || e.stumbles .wrapping (t.channel e.stream) timeout s.world
      let overflowed := s.overflowed || e.stumbles .checked (t.channel e.stream) timeout s.world
      let (r, e, w) := e.grab (t.channel e.stream) t.clock timeout s.world
      (r, { s with engine := some e, world := w, panicked, overflowed })
    | _, _ => (.error (.acquisition .notStreaming), s)

def clock : Clock (Session W) where
  now s := let (i, world) := t.clock.now s.world; (i, { s with world })
  sleep span s := { s with world := t.clock.sleep span s.world }
  patience span s := t.clock.patience span s.world

/-- Let go of the session, which closes it if that has not been done. -/
def release (s : Session W) : Session W :=
  if s.closed then s else (disconnect t s).2

/-- Enumerate the devices, pick one and connect to it. -/
def establish (selector : Selector) (options : SessionOptions) (w : W) :
    Except CameraError (Session W) × W :=
  match t.enumerate w with
  | (.error e, w) => (.error e, w)
  | (.ok devices, w) =>
    match selector.pick devices with
    | .error e => (.error e, w)
    | .ok d =>
      match connect t d (Session.new w options) with
      | (.ok (), s) => (.ok s, s.world)
      | (.error e, s) => (.error e, (release t s).world)

end Session
end FrameGrabber
