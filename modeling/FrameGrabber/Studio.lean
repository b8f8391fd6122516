import FrameGrabber.Pipeline
import FrameGrabber.Sink

/-!
# A frame loop and all it touches

A studio is the world of one frame loop: the state of the source that frames
come from, the sinks they go to, and the stop flag. It also keeps minutes, in
which watched sources and recording consumers write down what happened, in
order; the loop itself never reads them.
-/

namespace FrameGrabber

/-- What the minutes of a studio say. -/
inductive StudioEvent where
  /-- A frame was waited for. -/
  | grabbed (timeout : Span)
  /-- A consumer was handed a frame, and an instant with it. -/
  | handed (consumer : String) (frame : Frame) (timestamp : Instant)
  deriving DecidableEq, Repr, Inhabited

/-- The world of a frame loop over a source of state `S`. -/
structure Studio (S : Type) where
  source : S
  sinks : List Sink := []
  stopped : Bool := false
  minutes : List StudioEvent := []

namespace Studio

variable {S α : Type}

def note (e : StudioEvent) (w : Studio S) : Studio S := { w with minutes := w.minutes ++ [e] }

def stop (w : Studio S) : Studio S := { w with stopped := true }

def onSource (f : S → α × S) (w : Studio S) : α × Studio S :=
  let (a, source) := f w.source
  (a, { w with source })

def clock (c : Clock S) : Clock (Studio S) where
  now := onSource c.now
  sleep span w := { w with source := c.sleep span w.source }
  patience span w := c.patience span w.source

def frames (grab : Span → Call S Frame) (c : Clock S) : FrameSource (Studio S) where
  grab timeout := onSource (grab timeout)
  clock := clock c
  stopped w := w.stopped

/-- The same with each wait for a frame in the minutes. -/
def watched (source : FrameSource (Studio S)) : FrameSource (Studio S) :=
  { source with grab := fun timeout w => source.grab timeout (w.note (.grabbed timeout)) }

def deliver (i : Nat) (f : Frame) (w : Studio S) : Except SinkError Unit × Studio S :=
  match w.sinks[i]? with
  | none => (.ok (), w)
  | some sink =>
    let (r, sink) := sink.deliver f
    (r, { w with sinks := w.sinks.set i sink })

/-- Take a sink in, with the consumer that feeds it. -/
def install (sink : Sink) (w : Studio S) : Consumer (Studio S) × Studio S :=
  ({ name := sink.name, onFrame := fun f _ => deliver w.sinks.length f },
    { w with sinks := w.sinks ++ [sink] })

/-- Give the publishing sides their turn: each passes on what waits for it. -/
def attend (track : Track S) (c : Clock S) (g : Option Governor) (w : Studio S) : Studio S :=
  let turn (done : List Sink × S) (sink : Sink) : List Sink × S :=
    match sink with
    | .publisher queue =>
      let (waiting, queue) := queue.receiveAll
      (done.1 ++ [.publisher queue], (track.publish c g waiting done.2).2)
    | sink => (done.1 ++ [sink], done.2)
  let (sinks, source) := w.sinks.foldl turn ([], w.source)
  { w with sinks, source }

/-- A consumer that writes every frame it is handed into the minutes. Of the
frames that `refuse` or `halt` name by their sequence it then refuses the ones
and raises the stop flag at the others. -/
def recorder (name : String) (refuse halt : Nat → Bool) : Consumer (Studio S) where
  name := name
  onFrame f timestamp w :=
    let w := w.note (.handed name f timestamp)
    let w := if halt f.sequence then w.stop else w
    (if refuse f.sequence then .error (.refused "refused") else .ok (), w)

/-- The snapshots of all the sinks that take them. -/
def snapshots (w : Studio S) : List Snapshots :=
  w.sinks.filterMap fun s =>
    match s with
    | .snapshot store => some store
    | _ => none

end Studio
end FrameGrabber
