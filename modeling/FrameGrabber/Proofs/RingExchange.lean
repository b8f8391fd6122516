import FrameGrabber.Ring.Exchange

/-!
# A ring is a bounded queue

The frames that ever came out of a ring, followed by those that are still in it,
are the frames that went in, in the same order. Everything else about a ring
follows from this one equation: which frame the next pop gives, which one
skipping to the newest gives and which ones it passes over, and what the three
counters say.

Skipping to the newest is a loop of pops. The loop ends on an empty ring, and it
has then gone over all that was in it.
-/

namespace FrameGrabber
namespace FrameRing

theorem drain_eq (r : FrameRing) :
    r.drain = (r.frames, { r with frames := [], read := r.read + r.frames.length }) := by
  obtain ⟨capacity, frames, written, read, dropped⟩ := r
  induction frames generalizing read with
  | nil =>
      rw [drain]
      rfl
  | cons f rest ih =>
      rw [drain]
      simp only [pop, ih, List.length_cons]
      rw [Nat.add_right_comm, Nat.add_assoc]

theorem latest_eq_drain (r : FrameRing) :
    r.latest = (r.drain.1.getLast?, r.drain.2) := by
  rw [drain_eq]
  rfl

theorem pop_eq (r : FrameRing) :
    r.pop = (r.frames.head?, { r with
      frames := r.frames.tail
      read := r.read + r.frames.head?.toList.length }) := by
  obtain ⟨capacity, frames, written, read, dropped⟩ := r
  cases frames <;> rfl

theorem push_of_lt {r : FrameRing} (h : r.frames.length < r.capacity) (f : Frame) :
    r.push f = (true, { r with frames := r.frames ++ [f], written := r.written + 1 }) := by
  rw [push, if_pos h]

theorem push_of_not_lt {r : FrameRing} (h : ¬r.frames.length < r.capacity) (f : Frame) :
    r.push f = (false, { r with dropped := r.dropped + 1 }) := by
  rw [push, if_neg h]

end FrameRing

namespace Exchange

theorem step_push {x : Exchange} (h : x.writable = true) (f : Frame) :
    x.step (.push f) = (.pushed (x.offer f).1, (x.offer f).2) := if_pos h

theorem step_preview {x : Exchange} (h : x.writable = true) (f : Frame) :
    x.step (.preview f) = (.delivered (.ok ()), (x.offer f).2) := if_pos h

theorem step_pop (x : Exchange) :
    x.step .pop = (.frame x.ring.frames.head?, { x with
      ring := { x.ring with
        frames := x.ring.frames.tail
        read := x.ring.read + x.ring.frames.head?.toList.length }
      removed := x.removed ++ x.ring.frames.head?.toList }) := by
  rw [step, FrameRing.pop_eq]

theorem step_latest (x : Exchange) :
    x.step .latest = (.frame x.ring.frames.getLast?, { x with
      ring := { x.ring with frames := [], read := x.ring.read + x.ring.frames.length }
      removed := x.removed ++ x.ring.frames }) := by
  rw [step, FrameRing.latest_eq_drain, FrameRing.drain_eq]

/-- The books of an exchange agree. -/
structure Balanced (capacity : Nat) (x : Exchange) : Prop where
  capacity_eq : x.ring.capacity = max capacity 1
  order : x.removed ++ x.ring.frames = x.accepted
  sublist : x.accepted.Sublist x.offered
  written : x.ring.written = x.accepted.length
  read : x.ring.read = x.removed.length
  pushes : x.ring.written + x.ring.dropped = x.offered.length
  size_le : x.ring.size ≤ max capacity 1

variable {capacity : Nat} {x : Exchange}

theorem balanced_new (capacity : Nat) : Balanced capacity { ring := .new capacity } where
  capacity_eq := rfl
  order := rfl
  sublist := List.Sublist.slnil
  written := rfl
  read := rfl
  pushes := rfl
  size_le := Nat.zero_le _

theorem Balanced.offer (h : Balanced capacity x) (f : Frame) : Balanced capacity (x.offer f).2 := by
  have hwritten := h.written
  have hpushes := h.pushes
  have hsize := h.size_le
  by_cases hroom : x.ring.frames.length < x.ring.capacity
  · have hfits := hroom
    rw [h.capacity_eq] at hfits
    rw [Exchange.offer, FrameRing.push_of_lt hroom]
    refine ⟨h.capacity_eq, ?_, h.sublist.append (List.Sublist.refl _), ?_, h.read, ?_, ?_⟩
    · simp only [if_true]
      rw [← List.append_assoc, h.order]
    · simp only [if_true, List.length_append, List.length_singleton]
      omega
    · simp only [List.length_append, List.length_singleton]
      omega
    · simp only [FrameRing.size, List.length_append, List.length_singleton]
      omega
  · rw [Exchange.offer, FrameRing.push_of_not_lt hroom]
    refine ⟨h.capacity_eq, ?_, ?_, ?_, h.read, ?_, hsize⟩
    · simpa using h.order
    · simpa using h.sublist.trans (List.sublist_append_left _ _)
    · simpa using hwritten
    · simp only [List.length_append, List.length_singleton]
      omega

theorem Balanced.pop (h : Balanced capacity x) : Balanced capacity (x.step .pop).2 := by
  have hread := h.read
  have hsize := h.size_le
  rw [step_pop]
  refine ⟨h.capacity_eq, ?_, h.sublist, h.written, ?_, h.pushes, ?_⟩
  · rw [List.append_assoc, ← h.order]
    cases x.ring.frames <;> rfl
  · rw [List.length_append, ← hread]
  · simp only [FrameRing.size, List.length_tail] at hsize ⊢
    omega

theorem Balanced.latest (h : Balanced capacity x) : Balanced capacity (x.step .latest).2 := by
  have hread := h.read
  rw [step_latest]
  refine ⟨h.capacity_eq, ?_, h.sublist, h.written, ?_, h.pushes, Nat.zero_le _⟩
  · rw [List.append_nil, h.order]
  · rw [List.length_append, ← hread]

theorem Balanced.step (h : Balanced capacity x) (m : RingMove) :
    Balanced capacity (x.step m).2 := by
  cases m with
  | push f =>
      simp only [Exchange.step]
      split
      · exact h.offer f
      · exact h
  | preview f =>
      simp only [Exchange.step]
      split
      · exact h.offer f
      · exact h
  | pop => exact h.pop
  | latest => exact h.latest
  | close => exact ⟨h.capacity_eq, h.order, h.sublist, h.written, h.read, h.pushes, h.size_le⟩

theorem Balanced.run (h : Balanced capacity x) (moves : List RingMove) :
    Balanced capacity (x.run moves) := by
  induction moves generalizing x with
  | nil => exact h
  | cons m rest ih => exact ih (h.step m)

theorem Balanced.pending_eq (h : Balanced capacity x) : x.pending = x.ring.frames := by
  rw [pending, ← h.order, List.drop_left]

/-- What the next move gives, and what it does to the frames that are waiting. -/
structure Answers (capacity : Nat) (x : Exchange) : Prop where
  /-- A frame is taken in just if there is room for it. -/
  push : ∀ f, x.writable = true →
    (x.step (.push f)).1 = .pushed (x.ring.size < max capacity 1) ∧
    (x.step (.push f)).2.pending =
      x.pending ++ if x.ring.size < max capacity 1 then [f] else []
  /-- A preview answers well in either case, and does what a push does. -/
  preview : ∀ f, x.writable = true →
    (x.step (.preview f)).1 = .delivered (.ok ()) ∧
    (x.step (.preview f)).2 = (x.step (.push f)).2 ∧
    ((Sink.preview x.ring).deliver f).2 = .preview (x.step (.push f)).2.ring
  pop : (x.step .pop).1 = .frame x.pending.head? ∧ (x.step .pop).2.pending = x.pending.tail
  latest : (x.step .latest).1 = .frame x.pending.getLast? ∧ (x.step .latest).2.pending = [] ∧
    (x.step .latest).2.removed = x.removed ++ x.pending ∧ (x.step .latest).2.ring.frames = []
  /-- The newest frame is what comes out last if one pops until nothing is left. -/
  latest_eq : x.ring.latest = (x.ring.drain.1.getLast?, x.ring.drain.2)
  closed : x.writable = false → ∀ f, x.step (.push f) = (.closed, x) ∧
    x.step (.preview f) = (.closed, x)

theorem Balanced.answers (h : Balanced capacity x) : Answers capacity x where
  push f hw := by
    have hpending := (h.step (.push f)).pending_eq
    rw [hpending, h.pending_eq]
    rw [step_push hw, Exchange.offer]
    by_cases hroom : x.ring.frames.length < x.ring.capacity
    · have hfits := hroom
      rw [h.capacity_eq] at hfits
      simp [FrameRing.push_of_lt hroom, FrameRing.size, hfits]
    · have hfull := hroom
      rw [h.capacity_eq] at hfull
      simp [FrameRing.push_of_not_lt hroom, FrameRing.size, hfull]
  preview f hw := by
    rw [step_preview hw, step_push hw]
    exact ⟨rfl, rfl, rfl⟩
  pop := by
    rw [h.pop.pending_eq, h.pending_eq, step_pop]
    exact ⟨rfl, rfl⟩
  latest := by
    rw [h.latest.pending_eq, h.pending_eq, step_latest]
    exact ⟨rfl, rfl, rfl, rfl⟩
  latest_eq := x.ring.latest_eq_drain
  closed hw f := by simp [Exchange.step, hw]

/-- Over a ring of any capacity, anything may be offered and taken in any order, also
after the writer has gone. What came out and what is left are then the frames
that went in, in order and each once; the counters say how many there were; and
every further move answers as a queue of that capacity does. -/
theorem run_exchanges (capacity : Nat) (moves : List RingMove) :
    let x := ({ ring := .new capacity } : Exchange).run moves
    x.removed ++ x.ring.frames = x.accepted ∧ x.accepted.Sublist x.offered ∧
      x.ring.written + x.ring.dropped = x.offered.length ∧
      x.ring.read ≤ x.ring.written ∧ x.ring.written - x.ring.read = x.ring.size ∧
      x.ring.size ≤ max capacity 1 ∧ Answers capacity x := by
  intro x
  have hx : Balanced capacity x := (balanced_new capacity).run moves
  have hlength : x.removed.length + x.ring.size = x.accepted.length := by
    rw [← hx.order, List.length_append]
    rfl
  have hwritten := hx.written
  have hread := hx.read
  refine ⟨hx.order, hx.sublist, hx.pushes, ?_, ?_, hx.size_le, hx.answers⟩
  · omega
  · omega

end Exchange
end FrameGrabber
