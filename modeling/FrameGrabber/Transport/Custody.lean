import FrameGrabber.Transport

/-!
# Who has the buffers of a stream

Buffers go to a stream and come back from it. `Channel.recorded` does what
another stream does, and writes down every buffer that changes hands, as it is
when it does, and every wait that brought none. What the stream has at any
moment can be read off the record: what it was given and has not handed out
since.

A stream may hand out anything. One that hands out only what it has is honest;
the record shows that too.
-/

namespace FrameGrabber

/-- What passes between a stream and its user. -/
inductive Passing where
  /-- A buffer was handed to the stream. -/
  | given (b : Buffer)
  /-- A buffer was waited for, and this came. -/
  | taken (r : Except CameraError Buffer)
  /-- The stream was flushed. -/
  | flushed (bs : List Buffer)
  deriving Repr

/-- What the stream has after a passing, by the ids of the buffers. -/
def Passing.custody (ids : List BufferId) : Passing → List BufferId
  | given b => b.id :: ids
  | taken (.ok b) => ids.erase b.id
  | taken (.error _) => ids
  | flushed bs => bs.foldl (fun ids b => ids.erase b.id) ids

/-- What the stream has after all that the record says, the first passing first. -/
def custody (record : List Passing) : List BufferId := record.foldl Passing.custody []

/-- Does a stream that has these buffers hand out only what it has? -/
def Passing.Honest (ids : List BufferId) : Passing → Prop
  | given _ => True
  | taken (.ok b) => b.id ∈ ids
  | taken (.error _) => True
  | flushed bs => ∀ id ∈ bs.map (·.id), (bs.map (·.id)).count id ≤ ids.count id

instance (ids : List BufferId) : (p : Passing) → Decidable (p.Honest ids)
  | .given _ => inferInstanceAs (Decidable True)
  | .taken (.ok b) => inferInstanceAs (Decidable (b.id ∈ ids))
  | .taken (.error _) => inferInstanceAs (Decidable True)
  | .flushed bs => inferInstanceAs
      (Decidable (∀ id ∈ bs.map (·.id), (bs.map (·.id)).count id ≤ ids.count id))

/-- Has the stream, which had these buffers first, handed out only what it had? -/
def HonestFrom (ids : List BufferId) : List Passing → Prop
  | [] => True
  | p :: rest => p.Honest ids ∧ HonestFrom (p.custody ids) rest

instance decidableHonestFrom : (ids : List BufferId) → (record : List Passing) →
    Decidable (HonestFrom ids record)
  | _, [] => inferInstanceAs (Decidable True)
  | ids, p :: rest =>
    have := decidableHonestFrom (p.custody ids) rest
    inferInstanceAs (Decidable (p.Honest ids ∧ HonestFrom (p.custody ids) rest))

/-- A world with a record of the buffers that passed on one of its streams. -/
structure Recorded (W : Type) where
  world : W
  record : List Passing := []

namespace Recorded

variable {W α : Type}

def pass (f : W → α × W) (x : Recorded W) : α × Recorded W :=
  let (a, world) := f x.world
  (a, { x with world })

def noted (passing : α → Passing) (f : W → α × W) (x : Recorded W) : α × Recorded W :=
  let (a, world) := f x.world
  (a, ⟨world, x.record ++ [passing a]⟩)

end Recorded

/-- The stream with a record. -/
def Channel.recorded {W : Type} (ch : Channel W) : Channel (Recorded W) where
  enqueue b x := ⟨ch.enqueue b x.world, x.record ++ [.given b]⟩
  dequeue timeout := Recorded.noted .taken (ch.dequeue timeout)
  flush := Recorded.noted .flushed ch.flush

/-- The clock of the world, which the record has nothing to do with. -/
def Clock.recorded {W : Type} (clock : Clock W) : Clock (Recorded W) where
  now := Recorded.pass clock.now
  sleep span x := { x with world := clock.sleep span x.world }
  patience span x := clock.patience span x.world

variable {W : Type} (ch : Channel W) (clock : Clock W)

theorem Channel.recorded_enqueue (b : Buffer) (x : Recorded W) :
    ch.recorded.enqueue b x = ⟨ch.enqueue b x.world, x.record ++ [.given b]⟩ := rfl

theorem Channel.recorded_dequeue (timeout : Span) (x : Recorded W) :
    ch.recorded.dequeue timeout x = ((ch.dequeue timeout x.world).1,
      ⟨(ch.dequeue timeout x.world).2,
        x.record ++ [.taken (ch.dequeue timeout x.world).1]⟩) := rfl

theorem Clock.recorded_now (x : Recorded W) :
    clock.recorded.now x = ((clock.now x.world).1, { x with world := (clock.now x.world).2 }) :=
  rfl

end FrameGrabber
