import FrameGrabber.Frame.Decode
import FrameGrabber.Governor
import FrameGrabber.Sink.Error
import FrameGrabber.Transport

/-!
# Handing frames to an outbound track

Between the frame loop and the track lies a bounded queue. The loop offers each
frame and never waits: a full queue costs the frame, and the loss is counted.
The publishing side takes the frames in order, brings each to RGBA and passes
it to the track, which may refuse single frames without ending anything. Only a panic
of the track ends it, and takes the number of published frames with it.
-/

namespace FrameGrabber

/-- A frame with an alpha channel, as a track takes it. -/
structure RgbaFrame where
  width : UInt32
  height : UInt32
  data : Bytes
  sequence : Nat
  timestamp : Instant
  deriving DecidableEq, Repr, Inhabited

def RgbaFrame.ofFrame (f : Frame) : RgbaFrame :=
  ⟨f.width, f.height, rgbToRgba f.normalize.data, f.sequence, f.timestamp⟩

/-- The queue between the frame loop and the publishing side. -/
structure PublisherQueue where
  depth : Nat
  /-- Accepted frames that still wait, the oldest first. -/
  waiting : List Frame := []
  dropped : Nat := 0
  /-- Is the publishing side still there? -/
  attended : Bool := true
  deriving Repr

namespace PublisherQueue

/-- An empty queue. It holds one frame at least. -/
def new (depth : Nat) : PublisherQueue := { depth := max depth 1 }

/-- The publishing side goes away, and what waited is lost with it. -/
def abandon (q : PublisherQueue) : PublisherQueue := { q with attended := false, waiting := [] }

/-- Offer a frame. Only a queue without a publishing side fails. -/
def offer (q : PublisherQueue) (f : Frame) : Except SinkError Unit × PublisherQueue :=
  if !q.attended then (.error .publisherGone, q)
  else if q.waiting.length < q.depth then (.ok (), { q with waiting := q.waiting ++ [f] })
  else (.ok (), { q with dropped := q.dropped + 1 })

def receive (q : PublisherQueue) : Option Frame × PublisherQueue :=
  match q.waiting with
  | [] => (none, q)
  | f :: rest => (some f, { q with waiting := rest })

def receiveAll (q : PublisherQueue) : List Frame × PublisherQueue :=
  (q.waiting, { q with waiting := [] })

end PublisherQueue

/-- An outbound track over a state `S`: what it makes of one frame. -/
structure Track (S : Type) where
  name : String
  capture : RgbaFrame → S → Except SinkError Unit × S

/-- Wait out what is left of the interval since a frame was taken. -/
def Governor.settle {S : Type} (clock : Clock S) (g : Option Governor) (started : Instant)
    (s : S) : S :=
  match g with
  | none => s
  | some g =>
    let (now, s) := clock.now s
    let delay := g.delayAfter (now - started)
    if delay = 0 then s else clock.sleep delay s

/-- Publish frames to a track in order, pacing them if a governor is given. The
number is of the frames that the track accepted. -/
def Track.publish {S : Type} (t : Track S) (clock : Clock S) (g : Option Governor) :
    List Frame → S → Nat × S
  | [], s => (0, s)
  | f :: rest, s =>
    let (started, s) := clock.now s
    let (accepted, s) := t.capture (.ofFrame f) s
    let (n, s) := t.publish clock g rest (Governor.settle clock g started s)
    (if accepted.isOk then n + 1 else n, s)

/-- Does a frame fill its geometry exactly, four bytes to a pixel? The bytes
called for are counted in 64-bit words, as far as they fit. -/
def RgbaFrame.check (f : RgbaFrame) : Except SinkError Unit :=
  let expected := (f.width.toUInt64 * f.height.toUInt64 * 4).toNat
  if f.data.size = expected then .ok ()
  else .error (.wrongSize f.sequence f.data.size expected)

/-- The same as a program answers it that was built so. -/
def RgbaFrame.check? (b : Build) (f : RgbaFrame) : Option (Except SinkError Unit) :=
  b.count? (f.width.toNat * f.height.toNat * 4) f.check

/-- A track that only counts the frames whose pixels fill their geometry, and
refuses all others. `count` says how to count one. -/
def Track.counting {S : Type} (name : String) (count : S → S) : Track S where
  name := name
  capture f s :=
    match f.check with
    | .ok () => (.ok (), count s)
    | .error e => (.error e, s)

/-- Publish frames to a counting track in a program that was built so. It panics over the
first frame whose bytes it cannot count. -/
def Track.publishCounting? {S : Type} (b : Build) (name : String) (count : S → S)
    (clock : Clock S) (g : Option Governor) (frames : List Frame) (s : S) : Option (Nat × S) :=
  if frames.all fun f => ((RgbaFrame.ofFrame f).check? b).isSome then
    some ((Track.counting name count).publish clock g frames s)
  else none

/-- A track that keeps every frame it is given, also those it then refuses.
`keep` says where. -/
def Track.recording {S : Type} (name : String) (refuse : Nat → Bool)
    (keep : RgbaFrame → S → S) : Track S where
  name := name
  capture f s :=
    (if refuse f.sequence then .error (.refused "refused") else .ok (), keep f s)

end FrameGrabber
