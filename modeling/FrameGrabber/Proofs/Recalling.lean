import FrameGrabber.Buffer.History
import Mathlib.Data.List.Induction

/-!
# A buffer recalls its moves

Each move speaks of some pieces of a buffer and leaves the others alone. So the buffer
after any moves is the one that the moves make by themselves, piece by piece: its length,
its status and its image information are what was last said of them, and every place of
its memory has the byte that was last stored there. In particular a region shows what was
stored before the payload shrank, once it grows again, and recycling, which speaks of
everything but the memory, hides bytes and does not erase them.

The length that a move leaves is one that it has found to fit, or zero. That is all there
is to the payload's lying within the memory.
-/

namespace FrameGrabber

variable {id : BufferId} {capacity n : Nat} {moves : List BufferMove} {b : Buffer}

/-! ## What was said last -/

namespace BufferMove

theorem latest_concat {α : Type} (said? : BufferMove → Option α) (first : α)
    (moves : List BufferMove) (m : BufferMove) :
    latest said? first (moves ++ [m]) = (said? m).getD (latest said? first moves) := by
  rw [latest, List.reverse_concat, List.findSome?_cons]
  cases said? m <;> rfl

theorem storedBelow_getElem? (capacity : Nat) (moves : List BufferMove) (n place : Nat) :
    (storedBelow capacity moves n)[place]? =
      if place < n then some (stored capacity moves place) else none := by
  rw [storedBelow, Array.getElem?_ofFn]
  rfl

theorem size_storedBelow (capacity : Nat) (moves : List BufferMove) (n : Nat) :
    (storedBelow capacity moves n).size = n := Array.size_ofFn

theorem extract_storedBelow {m : Nat} (h : m ≤ n) :
    (storedBelow capacity moves n).extract 0 m = storedBelow capacity moves m := by
  apply Array.ext_getElem?
  intro place
  simp only [Array.getElem?_extract, size_storedBelow, storedBelow_getElem?, Nat.zero_add,
    Nat.sub_zero, Nat.min_eq_left h]
  split
  · rw [if_pos (by omega)]
  · rfl

theorem byte?_of_extent_le {place : Nat} {m : BufferMove} (h : m.extent ≤ place) :
    m.byte? capacity place = none := by
  cases m with
  | region size fill => exact if_neg fun hand => absurd hand.2 (Nat.not_lt.2 h)
  | write bytes => rw [byte?, Array.getElem?_eq_none h, ite_self]
  | setStatus s => rfl
  | setInfo i => rfl
  | recycle => rfl

/-- A move leaves no length beyond the capacity. -/
theorem length?_le {length : Nat} {m : BufferMove} (h : m.length? capacity = some length) :
    length ≤ capacity := by
  cases m with
  | region size fill =>
      simp only [length?] at h
      split at h
      · cases h
        assumption
      · cases h
  | write bytes =>
      cases h
      split
      · assumption
      · exact Nat.zero_le _
  | setStatus s => cases h
  | setInfo i => cases h
  | recycle =>
      cases h
      exact Nat.zero_le _

theorem latest_length_le (capacity : Nat) (moves : List BufferMove) :
    latest (length? capacity) 0 moves ≤ capacity := by
  induction moves using List.reverseRecOn with
  | nil => exact Nat.zero_le _
  | append_singleton moves m ih =>
      rw [latest_concat]
      cases h : m.length? capacity with
      | none => exact ih
      | some length => exact length?_le h

end BufferMove

/-! ## One move -/

namespace Buffer

theorem step_region_of_le {size : Nat} (h : size ≤ b.capacity) (fill : Nat → Option UInt8) :
    b.step (.region size fill) = (.region (some (b.memory.extract 0 size)),
      ({ b with length := size } : Buffer).overwrite
        ((b.memory.extract 0 size).mapIdx fun i byte => (fill i).getD byte)) := by
  simp only [step, grant?, if_pos h]
  rfl

theorem step_region_of_lt {size : Nat} (h : b.capacity < size) (fill : Nat → Option UInt8) :
    b.step (.region size fill) = (.region none, b) := by
  simp only [step, grant?, if_neg (Nat.not_le.2 h)]

theorem step_write_of_le {bytes : Bytes} (h : bytes.size ≤ b.capacity) :
    b.step (.write bytes) = (.written true,
      { ({ b with length := bytes.size } : Buffer).overwrite bytes with status := .success }) := by
  simp only [step, write, grant?, if_pos h]

theorem step_write_of_lt {bytes : Bytes} (h : b.capacity < bytes.size) :
    b.step (.write bytes) = (.written false, { b with length := 0, status := .aborted }) := by
  simp only [step, write, grant?, if_neg (Nat.not_le.2 h)]

/-- A move does to each piece of a buffer what it says of it, and nothing to the others. -/
structure Obeys (b : Buffer) (m : BufferMove) (b' : Buffer) : Prop where
  id : b'.id = b.id
  length : b'.length = (m.length? b.capacity).getD b.length
  status : b'.status = (m.status? b.capacity).getD b.status
  info : b'.info = m.info?.getD b.info
  memory : ∀ place, b'.memory[place]? =
    b.memory[place]?.map fun byte => (m.byte? b.capacity place).getD byte

theorem memory_of_silent {b' : Buffer} {m : BufferMove} (hmemory : b'.memory = b.memory)
    (hsilent : ∀ place, m.byte? b.capacity place = none) (place : Nat) :
    b'.memory[place]? = b.memory[place]?.map fun byte => (m.byte? b.capacity place).getD byte := by
  rw [hmemory, hsilent]
  exact Option.map_id'.symm

theorem obeys_region (b : Buffer) (size : Nat) (fill : Nat → Option UInt8) :
    Obeys b (.region size fill) (b.step (.region size fill)).2 := by
  rcases Nat.lt_or_ge b.capacity size with h | h
  · have hnot : ¬size ≤ b.capacity := Nat.not_le.2 h
    rw [step_region_of_lt h]
    refine ⟨rfl, ?_, rfl, rfl, memory_of_silent rfl fun place => ?_⟩
    · rw [BufferMove.length?, if_neg hnot]
      rfl
    · rw [BufferMove.byte?, if_neg fun hand => hnot hand.1]
  · have hsize : (b.memory.extract 0 size).size = size := size_payload_granted h
    rw [step_region_of_le h]
    refine ⟨rfl, ?_, rfl, rfl, fun place => ?_⟩
    · rw [BufferMove.length?, if_pos h]
      rfl
    · rw [overwrite_getElem?, Array.size_mapIdx, hsize, BufferMove.byte?]
      by_cases hplace : place < size
      · rw [if_pos hplace, if_pos ⟨h, hplace⟩, Array.getElem?_mapIdx, Array.getElem?_extract,
          if_pos (by rw [← Array.size_extract, hsize]; exact hplace), Nat.zero_add]
      · rw [if_neg hplace, if_neg fun hand => hplace hand.2]
        exact Option.map_id'.symm

theorem obeys_write (b : Buffer) (bytes : Bytes) :
    Obeys b (.write bytes) (b.step (.write bytes)).2 := by
  rcases Nat.lt_or_ge b.capacity bytes.size with h | h
  · have hnot : ¬bytes.size ≤ b.capacity := Nat.not_le.2 h
    rw [step_write_of_lt h]
    refine ⟨rfl, ?_, ?_, rfl, memory_of_silent rfl fun place => ?_⟩
    · rw [BufferMove.length?, if_neg hnot]
      rfl
    · rw [BufferMove.status?, if_neg hnot]
      rfl
    · rw [BufferMove.byte?, if_neg hnot]
  · rw [step_write_of_le h]
    refine ⟨rfl, ?_, ?_, rfl, fun place => ?_⟩
    · rw [BufferMove.length?, if_pos h]
      rfl
    · rw [BufferMove.status?, if_pos h]
      rfl
    · rw [overwrite_getElem?, BufferMove.byte?, if_pos h]
      by_cases hplace : place < bytes.size
      -- A place of the payload is one of the memory, so there is an old byte to give way.
      · have hmemory : place < b.memory.size := Nat.lt_of_lt_of_le hplace h
        rw [if_pos hplace, Array.getElem?_eq_getElem hplace, Array.getElem?_eq_getElem hmemory]
        rfl
      · rw [if_neg hplace, Array.getElem?_eq_none (Nat.not_lt.1 hplace)]
        exact Option.map_id'.symm

theorem obeys_step (b : Buffer) (m : BufferMove) : Obeys b m (b.step m).2 := by
  cases m with
  | region size fill => exact b.obeys_region size fill
  | write bytes => exact b.obeys_write bytes
  | setStatus s => exact ⟨rfl, rfl, rfl, rfl, memory_of_silent rfl fun _ => rfl⟩
  | setInfo i => exact ⟨rfl, rfl, rfl, rfl, memory_of_silent rfl fun _ => rfl⟩
  | recycle => exact ⟨rfl, rfl, rfl, rfl, memory_of_silent rfl fun _ => rfl⟩

/-! ## All moves -/

theorem recalled_nil (id : BufferId) (capacity : Nat) :
    recalled id capacity [] = new id capacity := by
  have hmemory : BufferMove.storedBelow capacity [] capacity = Array.replicate capacity 0 := by
    apply Array.ext_getElem?
    intro place
    rw [BufferMove.storedBelow_getElem?, Array.getElem?_replicate]
    rfl
  rw [recalled, hmemory]
  rfl

theorem capacity_recalled (id : BufferId) (capacity : Nat) (moves : List BufferMove) :
    (recalled id capacity moves).capacity = capacity := BufferMove.size_storedBelow _ _ _

theorem step_recalled (id : BufferId) (capacity : Nat) (moves : List BufferMove)
    (m : BufferMove) :
    ((recalled id capacity moves).step m).2 = recalled id capacity (moves ++ [m]) := by
  have hobeys := (recalled id capacity moves).obeys_step m
  generalize ((recalled id capacity moves).step m).2 = b' at hobeys
  obtain ⟨hid, hlength, hstatus, hinfo, hmemory⟩ := hobeys
  rw [capacity_recalled] at hlength hstatus
  have hbytes : b'.memory = BufferMove.storedBelow capacity (moves ++ [m]) capacity := by
    apply Array.ext_getElem?
    intro place
    rw [hmemory, capacity_recalled, recalled, BufferMove.storedBelow_getElem?,
      BufferMove.storedBelow_getElem?, BufferMove.stored, BufferMove.stored,
      BufferMove.latest_concat]
    split <;> rfl
  -- All pieces are known, and there are no others.
  show (⟨b'.id, b'.memory, b'.length, b'.status, b'.info⟩ : Buffer) = _
  rw [hid, hbytes, hlength, hstatus, hinfo, recalled, recalled, BufferMove.latest_concat,
    BufferMove.latest_concat, BufferMove.latest_concat]

theorem run_new (id : BufferId) (capacity : Nat) (moves : List BufferMove) :
    run moves (new id capacity) = recalled id capacity moves := by
  induction moves using List.reverseRecOn with
  | nil => exact (recalled_nil id capacity).symm
  | append_singleton moves m ih =>
      rw [← step_recalled, ← ih, run, List.foldl_append]
      rfl

/-- What a buffer that has come through these moves does with the next. -/
structure Answers (id : BufferId) (capacity : Nat) (moves : List BufferMove) (b : Buffer) :
    Prop where
  /-- A region is granted just if the buffer is large enough. It shows what was last stored
  at its places, whatever the payload has been since. -/
  region : ∀ size fill, (b.step (.region size fill)).1 =
    .region (if size ≤ capacity then some (BufferMove.storedBelow capacity moves size) else none)
  filled : ∀ size fill, size ≤ capacity → (b.step (.region size fill)).2.payload =
    (BufferMove.storedBelow capacity moves size).mapIdx fun i byte => (fill i).getD byte
  refused : ∀ size fill, capacity < size → (b.step (.region size fill)).2 = b
  /-- A payload is copied in whole or not at all. -/
  fits : ∀ bytes, (b.step (.write bytes)).1 = .written (bytes.size ≤ capacity)
  written : ∀ bytes, bytes.size ≤ capacity →
    (b.step (.write bytes)).2.payload = bytes ∧ (b.step (.write bytes)).2.status = .success
  oversized : ∀ bytes, capacity < bytes.size →
    (b.step (.write bytes)).2.payload = #[] ∧ (b.step (.write bytes)).2.status = .aborted ∧
      (b.step (.write bytes)).2.memory = b.memory
  /-- What lies beyond the bytes that are stored stays as it is. -/
  beyond : ∀ m place, m.extent ≤ place → (b.step m).2.memory[place]? = b.memory[place]?
  info : (∀ size fill, (b.step (.region size fill)).2.info = b.info) ∧
    ∀ bytes, (b.step (.write bytes)).2.info = b.info
  /-- Nothing but the memory tells a recycled buffer from a new one. -/
  recycled : (b.step .recycle).2 = { new id capacity with memory := b.memory }

/-- Of its past a buffer needs only what is in its memory. -/
theorem answers (hmemory : ∀ n ≤ b.capacity, b.memory.extract 0 n =
    BufferMove.storedBelow b.capacity moves n) : Answers b.id b.capacity moves b where
  region size fill := by
    rcases Nat.lt_or_ge b.capacity size with h | h
    · rw [step_region_of_lt h, if_neg (Nat.not_le.2 h)]
    · rw [step_region_of_le h, if_pos h, hmemory size h]
  filled size fill h := by
    rw [step_region_of_le h, hmemory size h]
    apply payload_overwrite
    rw [Array.size_mapIdx, BufferMove.size_storedBelow]
  refused size fill h := by rw [step_region_of_lt h]
  fits bytes := by
    rcases Nat.lt_or_ge b.capacity bytes.size with h | h
    · rw [step_write_of_lt h, decide_eq_false (Nat.not_le.2 h)]
    · rw [step_write_of_le h, decide_eq_true h]
  written bytes h := by
    rw [step_write_of_le h]
    exact ⟨payload_overwrite rfl, rfl⟩
  oversized bytes h := by
    rw [step_write_of_lt h]
    exact ⟨Array.extract_zero, rfl, rfl⟩
  beyond m place h := by
    rw [(b.obeys_step m).memory, BufferMove.byte?_of_extent_le h]
    exact Option.map_id'
  info := ⟨fun size fill => (b.obeys_region size fill).info,
    fun bytes => (b.obeys_write bytes).info⟩
  recycled := rfl

/-- A new buffer of any capacity, and anything done with it in any order. Its length, its
status and its image information are what was last said of them, and every place of its
memory has the byte that was last stored there; it stays the buffer it was, with the
payload within its memory; and to whatever is done next it answers by these alone. -/
theorem run_recalls (id : BufferId) (capacity : Nat) (moves : List BufferMove) :
    let b := run moves (new id capacity)
    b = recalled id capacity moves ∧ b.id = id ∧ b.capacity = capacity ∧
      b.length ≤ b.capacity ∧ b.payload = BufferMove.storedBelow capacity moves b.length ∧
      Answers id capacity moves b := by
  intro b
  have hb : b = recalled id capacity moves := run_new id capacity moves
  have hid : b.id = id := hb ▸ rfl
  have hcapacity : b.capacity = capacity := hb ▸ capacity_recalled id capacity moves
  have hlength : b.length ≤ capacity := hb ▸ BufferMove.latest_length_le capacity moves
  have hmemory : ∀ n ≤ capacity, b.memory.extract 0 n =
      BufferMove.storedBelow capacity moves n :=
    fun _ hn => hb ▸ BufferMove.extract_storedBelow hn
  refine ⟨hb, hid, hcapacity, hcapacity.symm ▸ hlength, hmemory b.length hlength, ?_⟩
  have hanswers : Answers b.id b.capacity moves b := answers (hcapacity.symm ▸ hmemory)
  rwa [hid, hcapacity] at hanswers

/-- What a shorter payload and recycling hide shows again in a longer region. -/
example :
    let moves := [.write #[1, 2, 3, 4], .region 2 fun i => if i = 1 then some 9 else none,
      .recycle, .write #[5, 6, 7, 8, 9]]
    let b := run moves (new ⟨1, 0⟩ 4)
    b.payload = #[] ∧ (b.step (.region 4 fun _ => none)).1 = .region (some #[1, 9, 3, 4]) := by
  decide

end Buffer
end FrameGrabber
