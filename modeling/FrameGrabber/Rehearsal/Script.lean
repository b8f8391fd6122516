import FrameGrabber.Transport

/-!
# A stream that follows a script

In place of a camera, a scripted stream answers each wait for a buffer with the
next entry of a script: a timeout, a failure, a buffer from somewhere else, or
the oldest queued buffer, completed as the entry says. It can show everything
that a stream may do, at once and in any order.

From its first flush on the stream is draining and the script no longer counts.
It may then withhold the newest of its buffers, and either give them out one by
one when waited for or not at all.
-/

namespace FrameGrabber

/-- One entry of a script. -/
inductive Cue where
  /-- No frame in time. -/
  | timeout
  | fail (error : CameraError)
  /-- A buffer that was never queued, of the ring's own generation or of none. -/
  | forge (index capacity : Nat) (foreign : Bool)
  /-- The oldest queued buffer, with a payload (all of it 42 unless given), and
  then a status and image information if given. -/
  | frame (payload : Option Bytes) (status : Option BufferStatus) (info : Option ImageInfo)
  deriving Repr, Inhabited

/-- How a scripted stream behaves while it is drained. -/
structure DrainManner where
  /-- Buffers that a flush leaves with the stream, the newest. -/
  withhold : Nat := 0
  /-- Are withheld buffers given out when waited for? -/
  release : Bool := false
  deriving DecidableEq, Repr, Inhabited

/-- What a buffer was like when it was queued. -/
structure Arrival where
  index : Nat
  capacity : Nat
  status : BufferStatus
  length : Nat
  informed : Bool
  deriving DecidableEq, Repr, Inhabited

/-- A scripted stream. -/
structure ScriptedStream where
  queue : List Buffer := []
  draining : Bool := false
  /-- Generation of the ring that was queued. -/
  generation : UInt32 := 0
  /-- Everything that was ever queued, in order. -/
  arrivals : List Arrival := []
  deriving Repr, Inhabited

/-- What a scripted stream answers to a wait. -/
inductive Reply where
  | buffer (b : Buffer)
  | fail (error : CameraError)
  /-- The whole wait passes. -/
  | nothing
  deriving Repr, Inhabited

namespace ScriptedStream

def enqueue (s : ScriptedStream) (b : Buffer) : ScriptedStream :=
  { s with
    queue := s.queue ++ [b]
    generation := b.id.generation
    arrivals := s.arrivals ++ [⟨b.id.index, b.capacity, b.status, b.length, b.info.isSome⟩] }

def complete (b : Buffer) (payload : Option Bytes) (status : Option BufferStatus)
    (info : Option ImageInfo) : Buffer :=
  let b := (b.write (payload.getD (Array.replicate b.capacity 42))).2
  let b := match status with
    | some s => b.setStatus s
    | none => b
  match info with
  | some i => b.setInfo i
  | none => b

/-- A buffer that was never queued, its whole capacity filled with sevens. -/
def forged (generation : UInt32) (index capacity : Nat) : Buffer :=
  ((Buffer.new ⟨generation, index⟩ capacity).write (Array.replicate capacity 7)).2

def giveOldest (s : ScriptedStream) (finish : Buffer → Buffer) : Reply × ScriptedStream :=
  match s.queue with
  | [] => (.nothing, s)
  | b :: rest => (.buffer (finish b), { s with queue := rest })

def follow (s : ScriptedStream) : Cue → Reply × ScriptedStream
  | .timeout => (.nothing, s)
  | .fail e => (.fail e, s)
  | .forge index capacity foreign =>
    (.buffer (forged (if foreign then 0 else s.generation) index capacity), s)
  | .frame payload status info => s.giveOldest (complete · payload status info)

def reply (manner : DrainManner) (script : List Cue) (s : ScriptedStream) :
    Reply × List Cue × ScriptedStream :=
  if s.draining then
    let (r, s) := if manner.release then s.giveOldest id else (.nothing, s)
    (r, script, s)
  else
    match script with
    | [] => (.nothing, [], s)
    | cue :: rest => let (r, s) := s.follow cue; (r, rest, s)

/-- Give back all queued buffers but the newest that are withheld. -/
def flush (manner : DrainManner) (s : ScriptedStream) : List Buffer × ScriptedStream :=
  let n := s.queue.length - manner.withhold
  (s.queue.take n, { s with queue := s.queue.drop n, draining := true })

end ScriptedStream

/-- A script, the streams that follow it, and the time. All the streams share
one script; each has its own buffers. -/
structure Stage where
  manner : DrainManner := {}
  script : List Cue := []
  streams : List ScriptedStream := []
  now : Instant := 0
  deriving Repr, Inhabited

namespace Stage

/-- Open a stream that follows the script from here on. -/
def openStream (s : Stage) : StreamId × Stage :=
  (s.streams.length, { s with streams := s.streams ++ [{}] })

def enqueue (id : StreamId) (b : Buffer) (s : Stage) : Stage :=
  { s with streams := s.streams.modify id (·.enqueue b) }

/-- Wait for a buffer. A wait that brings nothing takes its whole time. -/
def dequeue (id : StreamId) (timeout : Span) : Call Stage Buffer := fun s =>
  let (reply, script, stream) := (s.streams.getD id {}).reply s.manner s.script
  let s := { s with script, streams := s.streams.set id stream }
  match reply with
  | .buffer b => (.ok b, s)
  | .fail e => (.error e, s)
  | .nothing => (.error (.timeout timeout), { s with now := s.now + timeout })

def flush (id : StreamId) (s : Stage) : List Buffer × Stage :=
  let (bs, stream) := (s.streams.getD id {}).flush s.manner
  (bs, { s with streams := s.streams.set id stream })

def channel (id : StreamId) : Channel Stage := ⟨enqueue id, dequeue id, flush id⟩

/-- The clock of the stage; a reading takes no time. -/
def clock : Clock Stage where
  now s := (s.now, s)
  sleep span s := { s with now := s.now + span }
  patience span s := span + (s.streams.flatMap (·.queue)).length

end Stage
end FrameGrabber
