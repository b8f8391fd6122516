import FrameGrabber.Pipeline

/-!
# A frame loop before an audience

A performance is the world of a frame loop whose source follows a script and whose
consumers sit in an audience. Each listener decides from all that it has been
handed so far whether it refuses a frame and whether it raises the stop flag: that
is as much as the loop can see of a consumer, whatever state it keeps. The time is
that of any clock.

The minutes say, in order, when a frame was asked for and which seat was handed
what.
-/

namespace FrameGrabber

/-- What a consumer is handed. -/
structure Handing where
  frame : Frame
  timestamp : Instant
  deriving DecidableEq, Repr, Inhabited

/-- A consumer with a mind of its own. Both functions take all that the listener
was handed so far, the present frame included and last. -/
structure Listener where
  name : String
  answer : List Handing → Except SinkError Unit
  /-- Does it raise the stop flag? -/
  halts : List Handing → Bool

/-- What the minutes of a performance say. -/
inductive Minute where
  /-- A frame was asked for. -/
  | asked
  | handed (seat : Nat) (x : Handing)
  deriving DecidableEq, Repr

/-- What the minute handed to a seat, if it did. -/
def Minute.heard? (seat : Nat) : Minute → Option Handing
  | asked => none
  | handed seat' x => if seat' = seat then some x else none

structure Performance (T : Type) where
  time : T
  /-- How many times a frame was asked for. -/
  asked : Nat := 0
  stopped : Bool := false
  minutes : List Minute := []

namespace Performance

variable {T : Type}

def note (m : Minute) (w : Performance T) : Performance T := { w with minutes := w.minutes ++ [m] }

/-- What a seat was handed so far. -/
def heard (seat : Nat) (w : Performance T) : List Handing := w.minutes.filterMap (·.heard? seat)

def ask (w : Performance T) : Performance T := { w.note .asked with asked := w.asked + 1 }

def clock (c : Clock T) : Clock (Performance T) where
  now w := let (i, time) := c.now w.time; (i, { w with time })
  sleep span w := { w with time := c.sleep span w.time }
  patience span w := c.patience span w.time

/-- The source that answers as the script says. -/
def source (script : Nat → Except CameraError Frame) (c : Clock T) :
    FrameSource (Performance T) where
  grab _ w := (script w.asked, w.ask)
  clock := clock c
  stopped w := w.stopped

end Performance

/-- The listener as a consumer. -/
def Listener.seated {T : Type} (l : Listener) (seat : Nat) : Consumer (Performance T) where
  name := l.name
  onFrame f timestamp w :=
    let w := w.note (.handed seat ⟨f, timestamp⟩)
    (l.answer (w.heard seat), { w with stopped := w.stopped || l.halts (w.heard seat) })

/-- The listeners as consumers, on the seats from one on. -/
def audience {T : Type} : Nat → List Listener → List (Consumer (Performance T))
  | _, [] => []
  | seat, l :: rest => l.seated seat :: audience (seat + 1) rest

end FrameGrabber
