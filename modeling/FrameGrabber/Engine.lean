import FrameGrabber.Counters
import FrameGrabber.Frame.Decode
import FrameGrabber.Pool
import FrameGrabber.RateWindow
import FrameGrabber.Transport

/-!
# The stream engine

The engine owns one stream and the ring of buffers that travels on it. Starting
queues the whole ring. A grab waits for one buffer, copies a frame out of it
and puts the buffer back on the stream before it returns, whatever became of
the frame. Stopping takes the buffers back, waiting for stragglers up to a
deadline.

A buffer that the ring's ledger does not know is let go: it is neither decoded
nor queued.

The program panics where a ring is more than memory can have, where the wait of a stop
is over only at an instant that no clock can name, and, if it was built to check its
arithmetic, where the bytes of a picture cannot be counted in a word.
-/

namespace FrameGrabber

/-- Geometry and format for buffers that carry no image information. -/
structure Geometry where
  width : UInt32
  height : UInt32
  format : PixelFormat
  deriving DecidableEq, Repr, Inhabited

/-- What stopping did with the ring. -/
structure DrainReport where
  reclaimed : Nat
  /-- Buffers that the transport did not return in time. -/
  abandoned : Nat
  deriving DecidableEq, Repr, Inhabited

/-- A running stream. -/
structure Engine where
  stream : StreamId
  pool : Pool
  geometry : Geometry
  window : RateWindow
  counters : Counters
  /-- Frames delivered since the start. -/
  sequence : Nat
  deriving Repr

/-- How long one attempt to get a straggler back may take. -/
def drainPoll : Span := Span.ofMillis 10

/-- Record that a buffer came back. One that the ledger does not expect changes
nothing. -/
def Pool.reclaim (p : Pool) (b : Buffer) : Pool :=
  match p.checkOut b.id with
  | .ok p => p
  | .error _ => p

namespace Engine

variable {W : Type}

/-- Hand buffers to the hardware, one after the other. -/
def queueAll (ch : Channel W) : List Buffer → Pool → Call W Pool
  | [], p, w => (.ok p, w)
  | b :: rest, p, w =>
    match p.checkIn b.id with
    | .error e => (.error (.transport e.message), w)
    | .ok p => queueAll ch rest p (ch.enqueue b w)

/-- Allocate a ring and queue all of it. This comes before the device is told
to start, or the first frames have nowhere to go. A ring without buffers, or
of empty ones, is refused. -/
def start (ch : Channel W) (stream : StreamId) (count size : Nat) (geometry : Geometry)
    (counters : Counters) (g : Generations) (w : W) :
    Except CameraError Engine × Generations × W :=
  if count = 0 || size = 0 then
    (.error (.transport s!"cannot stream with {count} buffers of {size} bytes"), g, w)
  else
    let ((pool, buffers), g) := Pool.allocate g count size
    match queueAll ch buffers pool w with
    | (.error e, w) => (.error e, g, w)
    | (.ok pool, w) => (.ok ⟨stream, pool, geometry, default, counters, 0⟩, g, w)

/-- Start, unless the program panics over the ring. -/
def start? (ch : Channel W) (stream : StreamId) (count size : Nat) (geometry : Geometry)
    (counters : Counters) (g : Generations) (w : W) :
    Option (Except CameraError Engine × Generations × W) :=
  if Pool.overdraws count size then none
  else some (start ch stream count size geometry counters g w)

/-- Put a buffer back on the stream with its last frame forgotten, unless the
ledger says that it is there already. -/
def requeue (ch : Channel W) (e : Engine) (b : Buffer) (w : W) : Engine × W :=
  match e.pool.checkIn b.id with
  | .ok pool => ({ e with pool }, ch.enqueue b.recycle w)
  | .error _ => (e, w)

/-- Decode the payload of a buffer by its own image information, or by the
configured geometry where it has none. -/
def decode (e : Engine) (b : Buffer) (now : Instant) : Except CameraError Frame :=
  match b.info with
  | some i => decodeFrame b.payload i.width i.height i.format e.sequence now
  | none =>
    decodeFrame b.payload e.geometry.width e.geometry.height e.geometry.format e.sequence now

/-- The same as a program does it that was built so. -/
def decode? (build : Build) (e : Engine) (b : Buffer) (now : Instant) :
    Option (Except CameraError Frame) :=
  match b.info with
  | some i => decodeFrame? build b.payload i.width i.height i.format e.sequence now
  | none =>
    decodeFrame? build b.payload e.geometry.width e.geometry.height e.geometry.format e.sequence
      now

def dropFrame (e : Engine) : Engine := { e with counters := e.counters.recordDropped }

def missFrame (e : Engine) : Engine := { e with counters := e.counters.recordTimeout }

/-- Count a delivered frame and measure the rate with it. -/
def deliverFrame (e : Engine) (f : Frame) : Engine :=
  let (rate, window) := e.window.tick f.timestamp
  { e with window, sequence := e.sequence + 1, counters := e.counters.recordDelivered rate }

def grab (ch : Channel W) (clock : Clock W) (timeout : Span) (e : Engine) (w : W) :
    Except CameraError Frame × Engine × W :=
  match ch.dequeue timeout w with
  | (.error (.timeout waited), w) => (.error (.timeout waited), e.missFrame, w)
  | (.error err, w) => (.error err, e, w)
  | (.ok b, w) =>
    match e.pool.checkOut b.id with
    | .error _ => (.error (.acquisition (.buffer .aborted)), e.dropFrame, w)
    | .ok pool =>
      let e := { e with pool }
      if b.status ≠ .success then
        let (e, w) := e.requeue ch b w
        (.error (.acquisition (.buffer b.status)), e.dropFrame, w)
      else
        let (now, w) := clock.now w
        let decoded := e.decode b now
        let (e, w) := e.requeue ch b w
        match decoded with
        | .ok f => (.ok f, e.deliverFrame f, w)
        | .error err => (.error err, e.dropFrame, w)

/-- Does a program that was built so panic over the picture that a grab decodes? -/
def stumbles (build : Build) (ch : Channel W) (timeout : Span) (e : Engine) (w : W) : Bool :=
  match (ch.dequeue timeout w).1 with
  | .error _ => false
  | .ok b =>
    e.pool.state? b.id = some .queued && b.status = .success && (e.decode? build b 0).isNone

/-- Grab as a program does that was built so. -/
def grab? (build : Build) (ch : Channel W) (clock : Clock W) (timeout : Span) (e : Engine)
    (w : W) : Option (Except CameraError Frame × Engine × W) :=
  if e.stumbles build ch timeout w then none else some (e.grab ch clock timeout w)

/-- Grabs one after the other, whatever comes of them. -/
def grabs (ch : Channel W) (clock : Clock W) : List Span → Engine → W → Engine × W
  | [], e, w => (e, w)
  | timeout :: rest, e, w =>
    let (_, e, w) := e.grab ch clock timeout w
    grabs ch clock rest e w

/-- Take buffers back until all are there or the deadline has passed. The first
argument bounds the number of passes. -/
def drain (ch : Channel W) (clock : Clock W) (deadline : Instant) : Nat → Pool → W → Pool × W
  | 0, p, w => (p, w)
  | passes + 1, p, w =>
    let (flushed, w) := ch.flush w
    let p := flushed.foldl Pool.reclaim p
    if p.queued = 0 then (p, w)
    else
      let (now, w) := clock.now w
      if deadline ≤ now then (p, w)
      else
        match ch.dequeue (min drainPoll (deadline - now)) w with
        | (.ok b, w) => drain ch clock deadline passes (p.reclaim b) w
        | (.error _, w) => drain ch clock deadline passes p w

/-- Take the ring back, waiting at most `wait` for it. The device has been told
to stop before this. -/
def stop (ch : Channel W) (clock : Clock W) (wait : Span) (e : Engine) (w : W) :
    DrainReport × W :=
  let (begun, w) := clock.now w
  let (p, w) := drain ch clock (begun + wait) (clock.patience wait w + 1) e.pool w
  (⟨p.held, p.queued⟩, w)

/-- Is the wait over only at an instant that no clock can name? -/
def outlasts (clock : Clock W) (wait : Span) (w : W) : Bool :=
  Instant.latest < (clock.now w).1 + wait

/-- Take the ring back, unless the program panics over the wait. -/
def stop? (ch : Channel W) (clock : Clock W) (wait : Span) (e : Engine) (w : W) :
    Option (DrainReport × W) :=
  if outlasts clock wait w then none else some (e.stop ch clock wait w)

end Engine
end FrameGrabber
