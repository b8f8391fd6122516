import FrameGrabber.Engine

/-!
# The ring of a running engine is full

Between two calls on an engine every buffer of its ring is with the stream, as
far as the ledger knows. Starting queues the ring from its first place to its
last; that is the one induction here, and its invariant is a ledger whose first
slots are queued and whose other slots are still held. A grab checks one buffer
out and checks the same buffer in again, which leaves the ledger as it was,
whatever the stream handed out; so `Engine.grab_eq` below says what a grab does
without mentioning the ledger's changes at all.
-/

namespace FrameGrabber

namespace Pool

/-- Every slot of a ring of `n` buffers is with the hardware. -/
def Full (n : Nat) (p : Pool) : Prop := p.slots = List.replicate n .queued

variable {n : Nat} {p q : Pool} {id : BufferId}

theorem Full.size_eq (h : p.Full n) : p.size = n := by
  rw [size, h, List.length_replicate]

theorem Full.queued_eq (h : p.Full n) : p.queued = n := by
  rw [queued, h, List.count_replicate_self]

theorem Full.held_eq (h : p.Full n) : p.held = 0 := by
  rw [held, h, List.count_replicate]
  rfl

theorem state?_eq_some_iff {s : SlotState} :
    p.state? id = some s ↔ id.generation = p.generation ∧ p.slots[id.index]? = some s := by
  unfold state?
  split
  · next hg => rw [and_iff_right hg]
  · next hg => exact iff_of_false (fun h => nomatch h) (fun h => hg h.1)

/-- A slot that is set is set for its buffer alone. -/
theorem state?_set {actual : SlotState} (h : p.state? id = some actual)
    (s : SlotState) (id' : BufferId) :
    ({ p with slots := p.slots.set id.index s } : Pool).state? id' =
      if id' = id then some s else p.state? id' := by
  obtain ⟨hgeneration, hslot⟩ := state?_eq_some_iff.1 h
  by_cases hid : id' = id
  · subst hid
    rw [if_pos rfl, state?_eq_some_iff]
    exact ⟨hgeneration, List.getElem?_set_self (List.getElem?_eq_some_iff.1 hslot).1⟩
  · rw [if_neg hid]
    unfold state?
    split
    · next hg =>
        refine List.getElem?_set_ne fun hindex => hid ?_
        rcases id with ⟨g, i⟩
        rcases id' with ⟨g', i'⟩
        rw [BufferId.mk.injEq]
        exact ⟨hg.trans hgeneration.symm, hindex.symm⟩
    · rfl

/-! The three answers to a transfer, by where the ledger has the buffer. -/

theorem transfer_eq_ok {source target : SlotState} (h : p.state? id = some source) :
    p.transfer id source target = .ok { p with slots := p.slots.set id.index target } := by
  rw [transfer, h]
  exact if_pos rfl

theorem transfer_eq_foreign {source target : SlotState} (h : p.state? id = none) :
    p.transfer id source target = .error (.foreign id) := by
  rw [transfer, h]

theorem transfer_eq_wrongState {source target actual : SlotState}
    (h : p.state? id = some actual) (hne : actual ≠ source) :
    p.transfer id source target = .error (.wrongState id actual) := by
  rw [transfer, h]
  exact if_neg hne

/-- A buffer is checked out if the ledger has its slot with the hardware, and
the slot is then with the owner. -/
theorem checkOut_eq_ok (h : p.state? id = some .queued) :
    p.checkOut id = .ok { p with slots := p.slots.set id.index .held } :=
  transfer_eq_ok h

theorem checkOut_eq_error (h : p.state? id ≠ some .queued) :
    ∃ e, p.checkOut id = .error e := by
  cases hs : p.state? id with
  | none => exact ⟨_, transfer_eq_foreign hs⟩
  | some actual => exact ⟨_, transfer_eq_wrongState hs fun ha => h (by rw [hs, ha])⟩

/-- A slot that is still held is checked in. -/
theorem checkIn_eq_ok (h : p.state? id = some .held) :
    p.checkIn id = .ok { p with slots := p.slots.set id.index .queued } :=
  transfer_eq_ok h

/-- Checking a buffer in again undoes checking it out. -/
theorem checkIn_of_checkOut (h : p.state? id = some .queued) :
    ({ p with slots := p.slots.set id.index .held } : Pool).checkIn id = .ok p := by
  have hstate := state?_set h .held id
  rw [if_pos rfl] at hstate
  obtain ⟨-, hslot⟩ := state?_eq_some_iff.1 h
  obtain ⟨hi, hv⟩ := List.getElem?_eq_some_iff.1 hslot
  have hslots : (p.slots.set id.index .held).set id.index .queued = p.slots := by
    rw [List.set_set, ← hv, List.set_getElem_self]
  rw [checkIn_eq_ok hstate]
  simp only [hslots]

/-- The ids of a ring, in the order of its places. -/
def ids (generation : UInt32) (n : Nat) : List BufferId :=
  (List.range n).map fun i => ⟨generation, i⟩

theorem ids_length (g : UInt32) (n : Nat) : (ids g n).length = n := by
  simp [ids]

theorem ids_nodup (g : UInt32) (n : Nat) : (ids g n).Nodup := by
  refine List.Pairwise.map _ (fun i j hij h => hij ?_) List.nodup_range
  injection h

theorem ids_generation {g : UInt32} {n : Nat} (h : id ∈ ids g n) :
    id.generation = g := by
  obtain ⟨i, -, rfl⟩ := List.mem_map.1 h
  rfl

/-- Of a ring that is all out there, just the buffers of the ring are. -/
theorem Full.state?_eq_queued_iff (h : p.Full n) :
    p.state? id = some .queued ↔ id ∈ ids p.generation n := by
  rcases id with ⟨g, i⟩
  unfold state?
  rw [h, List.getElem?_replicate]
  by_cases hg : g = p.generation
  · by_cases hi : i < n <;> simp [ids, hg, hi]
  · simp [ids, hg, Ne.symm hg]

theorem allocate_ids (g : Generations) (n size : Nat) :
    (allocate g n size).1.2.map (·.id) = ids g.next n := by
  simp [allocate, ids, Buffer.new]

end Pool

namespace Engine

variable {W : Type} {ch : Channel W} {clock : Clock W}

/-- Queueing the buffers of the places from `k` on, with the places before them
queued already, fills the ring. -/
theorem queueAll_range (ch : Channel W) (g : UInt32) (size : Nat) :
    ∀ (m k : Nat) (w : W),
    queueAll ch ((List.range' k m).map fun i => Buffer.new ⟨g, i⟩ size)
        ⟨g, size, List.replicate k .queued ++ List.replicate m .held⟩ w =
      (.ok ⟨g, size, List.replicate (k + m) .queued⟩,
        ((List.range' k m).map fun i => Buffer.new ⟨g, i⟩ size).foldl
          (fun w b => ch.enqueue b w) w) := by
  intro m
  induction m with
  | zero =>
      intro k w
      simp [queueAll]
  | succ m ih =>
      intro k w
      have hstate : (⟨g, size, List.replicate k .queued ++ List.replicate (m + 1) .held⟩ :
          Pool).state? ⟨g, k⟩ = some .held := by
        simp [Pool.state?, List.replicate_succ]
      have hslots : (List.replicate k SlotState.queued ++
            List.replicate (m + 1) SlotState.held).set k .queued =
          List.replicate (k + 1) .queued ++ List.replicate m .held := by
        rw [List.set_append_right _ _ (by simp), List.length_replicate, Nat.sub_self,
          List.replicate_succ, List.set_cons_zero, List.replicate_succ',
          List.append_assoc, List.singleton_append]
      rw [List.range'_succ, List.map_cons, queueAll]
      simp only [Buffer.new, Pool.checkIn_eq_ok hstate, hslots]
      have hrest := ih (k + 1) (ch.enqueue (Buffer.new ⟨g, k⟩ size) w)
      rw [show k + 1 + m = k + (m + 1) by omega] at hrest
      exact hrest

/-- A ring with buffers of some size is queued in whole, from its first place to
its last; any other is refused before the stream is touched. -/
theorem start_eq (stream : StreamId) (n size : Nat) (geometry : Geometry)
    (counters : Counters) (g : Generations) (w : W) :
    start ch stream n size geometry counters g w =
      if n = 0 ∨ size = 0 then
        (.error (.transport s!"cannot stream with {n} buffers of {size} bytes"), g, w)
      else
        (.ok ⟨stream, ⟨g.next, size, List.replicate n .queued⟩, geometry, default,
            counters, 0⟩,
          ⟨g.next + 1⟩,
          (Pool.allocate g n size).1.2.foldl (fun w b => ch.enqueue b w) w) := by
  unfold start
  by_cases h : n = 0 ∨ size = 0
  · rw [if_pos h, if_pos (by simpa using h)]
  · rw [if_neg h, if_neg (by simpa using h)]
    have hqueue := queueAll_range ch g.next size n 0 w
    simp only [List.replicate_zero, List.nil_append, Nat.zero_add,
      ← List.range_eq_range'] at hqueue
    simp only [Pool.allocate, hqueue]

theorem start?_of_room (stream : StreamId) {n size : Nat} (geometry : Geometry)
    (counters : Counters) (g : Generations) (w : W) (hroom : size ≤ memoryLimit) :
    start? ch stream n size geometry counters g w =
      some (start ch stream n size geometry counters g w) := by
  rw [start?, if_neg (by simp [Pool.overdraws, hroom])]

theorem stop?_eq_none_iff {clock : Clock W} {wait : Span} {e : Engine} {w : W} :
    e.stop? ch clock wait w = none ↔ Instant.latest < (clock.now w).1 + wait := by
  unfold stop? outlasts
  simp

theorem eq_stop_of_stop? {clock : Clock W} {wait : Span} {e : Engine} {w : W}
    {out : DrainReport × W} (h : e.stop? ch clock wait w = some out) :
    out = e.stop ch clock wait w := by
  unfold stop? at h
  split at h
  · cases h
  · injection h with h
    exact h.symm

/-- A buffer that is checked out and put back leaves the engine as it was. -/
theorem requeue_of_checkOut {e : Engine} {b : Buffer} (w : W)
    (h : e.pool.state? b.id = some .queued) :
    ({ e with pool := { e.pool with slots := e.pool.slots.set b.id.index .held } } :
        Engine).requeue ch b w = (e, ch.enqueue b.recycle w) := by
  simp only [requeue, Pool.checkIn_of_checkOut h]

/-- A grab takes one buffer from the stream. One that the ledger does not know
to be out there is let go; any other goes back emptied, and its frame, if it has
one, is decoded first. -/
theorem grab_eq (e : Engine) (timeout : Span) (w : W) :
    e.grab ch clock timeout w = match ch.dequeue timeout w with
      | (.error (.timeout waited), w) => (.error (.timeout waited), e.missFrame, w)
      | (.error err, w) => (.error err, e, w)
      | (.ok b, w) =>
        if e.pool.state? b.id = some .queued then
          if b.status ≠ .success then
            (.error (.acquisition (.buffer b.status)), e.dropFrame,
              ch.enqueue b.recycle w)
          else
            let (now, w) := clock.now w
            match e.decode b now with
            | .ok f => (.ok f, e.deliverFrame f, ch.enqueue b.recycle w)
            | .error err => (.error err, e.dropFrame, ch.enqueue b.recycle w)
        else (.error (.acquisition (.buffer .aborted)), e.dropFrame, w) := by
  unfold grab
  rcases ch.dequeue timeout w with ⟨err | b, w₁⟩
  · cases err <;> rfl
  · by_cases hs : e.pool.state? b.id = some .queued
    · simp only [Pool.checkOut_eq_ok hs, if_pos hs, requeue_of_checkOut _ hs]
      rfl
    · obtain ⟨err, herr⟩ := Pool.checkOut_eq_error hs
      simp only [herr, if_neg hs]

end Engine
end FrameGrabber
