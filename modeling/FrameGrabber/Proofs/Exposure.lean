import FrameGrabber.Sim.Stream
import Mathlib.Data.List.Forall2

/-!
# What a camera puts into the buffers of its stream

A tick that finds an empty buffer leaves one of two things in it. A frame that
arrives incomplete only marks the buffer. Any other fills it: the picture of that
tick from the first byte of the payload to the last, the geometry and the format
of the registers beside it, whatever the buffer held before. For that the buffer
must be as large as a payload, and the payload as large as a picture; where a
picture is longer than the length of a payload can say, the camera breaks down
instead, so no buffer ever comes out of it with a part of a picture.

A stream is followed by the numbers of its ticks. Those whose buffers were handed
out and those whose buffers still wait make up, in this order, all the ticks that
filled a buffer so far.
-/

namespace FrameGrabber

/-! ## One exposure -/

theorem Pattern.size_payload (format : PixelFormat) (width height tick : Nat) :
    (payload format width height tick).size =
      width * height * format.bytesPerPixel?.getD 1 := by
  simp [payload]

/-- A word says what a count is just where the count is shorter than the words go. -/
theorem mod_size_eq_iff {count : Nat} : count % UInt64.size = count ↔ count < UInt64.size :=
  ⟨fun h => h ▸ Nat.mod_lt _ (by decide), Nat.mod_eq_of_lt⟩

namespace Registers

variable (r : Registers)

theorem toNat_bytesPerPixel (format : PixelFormat) :
    (format.bytesPerPixel?.getD 1).toUInt64.toNat = format.bytesPerPixel?.getD 1 := by
  cases format <;> rfl

theorem toNat_payloadSize : r.payloadSize.toNat = r.pictureSize % UInt64.size := by
  rw [payloadSize, UInt64.toNat_mul, UInt64.toNat_mul, UInt32.toNat_toUInt64,
    UInt32.toNat_toUInt64, toNat_bytesPerPixel, Nat.mod_mul_mod, pictureSize, UInt64.size]

theorem payloadSize_le : r.payloadSize.toNat ≤ r.pictureSize := by
  rw [toNat_payloadSize]
  exact Nat.mod_le _ _

/-- The word says how long a picture is just where a picture is shorter than the words
go. -/
theorem toNat_payloadSize_eq_iff :
    r.payloadSize.toNat = r.pictureSize ↔ r.pictureSize < UInt64.size := by
  rw [toNat_payloadSize]
  exact mod_size_eq_iff

/-- A picture that is no longer than its payload is as long. -/
theorem pictureSize_eq (h : ¬r.payloadSize.toNat < r.pictureSize) :
    r.pictureSize = r.payloadSize.toNat :=
  Nat.le_antisymm (Nat.not_lt.1 h) r.payloadSize_le

end Registers

namespace Camera

variable {c : Camera} {r : Registers} {tick : Nat} {b b' : Buffer}

/-- What a buffer has in it after the tick that filled it. -/
inductive Developed (c : Camera) (r : Registers) (tick : Nat) (b : Buffer) : Prop
  | incomplete (hfails : c.fails tick = true) (hstatus : b.status = .timeout)
  | complete (hfails : c.fails tick = false) (hstatus : b.status = .success)
      (hinfo : b.info = some ⟨r.width, r.height, r.format⟩)
      (hpayload : b.payload = Pattern.payload r.format r.width.toNat r.height.toNat tick)
      (hwhole : r.pictureSize = r.payloadSize.toNat)

/-- Into a buffer of the size of a payload an exposure is made in whole. -/
theorem developed_of_exposure (hcapacity : b.capacity = r.payloadSize.toNat)
    (h : c.exposure? r tick b = some b') :
    c.Developed r tick b' ∧ b'.id = b.id ∧ b'.capacity = b.capacity := by
  unfold exposure? at h
  split at h
  · cases h
  · next hruns =>
    injection h with h
    subst h
    unfold expose
    cases hfails : c.fails tick with
    | true => exact ⟨.incomplete hfails rfl, rfl, rfl⟩
    | false =>
        have hwhole : r.pictureSize = r.payloadSize.toNat := by
          apply r.pictureSize_eq
          intro hlt
          exact hruns (by simp [overruns, hfails, hcapacity, hlt])
        have hbytes : (Pattern.payload r.format r.width.toNat r.height.toNat tick).size =
            r.payloadSize.toNat := by
          rw [Pattern.size_payload, ← hwhole, Registers.pictureSize]
        simp only [Bool.false_eq_true, if_false, Buffer.grant?,
          if_pos (Nat.le_of_eq hcapacity.symm)]
        refine ⟨.complete hfails rfl rfl ?_ hwhole, rfl, ?_⟩
        · exact Buffer.payload_overwrite hbytes.symm
        · exact Buffer.capacity_overwrite (by rw [hbytes]; exact Nat.le_of_eq hcapacity.symm)

theorem overlong_of_exposure (h : c.exposure? r tick b = none) :
    r.payloadSize.toNat < r.pictureSize := by
  unfold exposure? at h
  split at h
  · next hruns =>
    simp only [overruns, Bool.and_eq_true, decide_eq_true_eq] at hruns
    exact hruns.2
  · cases h

/-- A camera whose pictures are shorter than the words go does not break down. -/
theorem exposure?_of_lt (h : r.pictureSize < UInt64.size) :
    c.exposure? r tick b = some (c.expose r tick b) := by
  have hwhole : r.payloadSize.toNat = r.pictureSize := r.toNat_payloadSize_eq_iff.2 h
  rw [exposure?, if_neg (by simp [overruns, hwhole])]

end Camera

/-! ## A stretch of ticks -/

namespace SimStream

variable {expose : Nat → Buffer → Option Buffer} {P : Buffer → Prop} {Q : Nat → Buffer → Prop}

/-- A stretch of ticks, from the tick `n` on, over buffers of which `P` holds. -/
structure Stretched (expose : Nat → Buffer → Option Buffer) (P : Buffer → Prop)
    (Q : Nat → Buffer → Prop) (n : Nat) (x : Stretch) : Prop where
  left : ∀ b ∈ x.left, P b
  exposed : ∀ y ∈ x.exposed, Q y.1 y.2
  /-- The exposures are of the first ticks of the stretch, with none left out. -/
  ticks : x.exposed.map (·.1) = List.range' n x.exposed.length
  ticks_le : n + x.exposed.length ≤ x.ticks
  broken : x.broken = true → ∃ n b, expose n b = none

theorem stretch_stretched (hexpose : ∀ n b b', P b → expose n b = some b' → Q n b')
    (interval : Span) (until' : Instant) (bs : List Buffer) (due : Instant) (n : Nat)
    (hbs : ∀ b ∈ bs, P b) :
    Stretched expose P Q n (stretch expose interval until' bs due n) := by
  -- A tick takes one of the buffers that wait, so the induction is on these. Once they
  -- are used up, all ticks that are left are lost.
  induction bs generalizing due n with
  | nil =>
      unfold stretch
      split
      · exact ⟨hbs, by simp, rfl, Nat.le_refl _, by simp⟩
      · exact ⟨hbs, by simp, rfl, Nat.le_add_right _ _, by simp⟩
  | cons b rest ih =>
      have hrest : ∀ b ∈ rest, P b := fun b hb => hbs b (List.mem_cons_of_mem _ hb)
      unfold stretch
      split
      · exact ⟨hbs, by simp, rfl, Nat.le_refl _, by simp⟩
      · split
        · next hnone => exact ⟨hrest, by simp, rfl, Nat.le_refl _, fun _ => ⟨n, b, hnone⟩⟩
        · next filled hfilled =>
          have hlater := ih (Schedule.nextDue interval due due) (n + 1) hrest
          have hfirst : Q n filled := hexpose n b filled (hbs b List.mem_cons_self) hfilled
          have hle := hlater.ticks_le
          refine ⟨hlater.left, ?_, ?_, ?_, hlater.broken⟩
          · intro y hy
            rcases List.mem_cons.1 hy with rfl | hy
            · exact hfirst
            · exact hlater.exposed y hy
          · simp only [List.map_cons, List.length_cons, List.range'_succ, hlater.ticks]
          · simp only [List.length_cons]
            omega

/-! ## The whole stream -/

theorem pairwise_lt_append_range' {ticks : List Nat} {n : Nat} (h : ticks.Pairwise (· < ·))
    (hlt : ∀ tick ∈ ticks, tick < n) (k : Nat) :
    (ticks ++ List.range' n k).Pairwise (· < ·) := by
  refine List.pairwise_append.2 ⟨h, List.pairwise_lt_range', ?_⟩
  intro tick htick later hlater
  exact Nat.lt_of_lt_of_le (hlt tick htick) (List.mem_range'_1.1 hlater).1

theorem lt_of_mem_append_range' {ticks : List Nat} {n k m : Nat}
    (hlt : ∀ tick ∈ ticks, tick < n) (hle : n + k ≤ m) :
    ∀ tick ∈ ticks ++ List.range' n k, tick < m := by
  intro tick htick
  rcases List.mem_append.1 htick with hold | hnew
  · have := hlt tick hold
    omega
  · have := (List.mem_range'_1.1 hnew).2
    omega

theorem advance_connection (c : Camera) (r : Registers) (until' : Instant) (s : SimStream) :
    (s.advance c r until').connection = s.connection := by
  unfold advance
  split
  · rfl
  · cases s.due <;> rfl

/-- A buffer of the ring, as large as a payload. -/
structure Fits (r : Registers) (ring : List BufferId) (b : Buffer) : Prop where
  mem : b.id ∈ ring
  capacity : b.capacity = r.payloadSize.toNat

/-- The buffers of the stream are of the ring. Those that wait filled were filled
by the ticks `pending`, those that were handed out before by the ticks `served`. -/
structure Loaded (c : Camera) (r : Registers) (ring : List BufferId)
    (served pending : List Nat) (s : SimStream) : Prop where
  empty : ∀ b ∈ s.input, Fits r ring b
  developed : List.Forall₂ (fun tick b => Fits r ring b ∧ c.Developed r tick b)
    pending s.output
  filled : s.filled = served ++ pending
  increasing : s.filled.Pairwise (· < ·)
  before : ∀ tick ∈ s.filled, tick < s.ticks
  overlong : s.broken = true → r.payloadSize.toNat < r.pictureSize

variable {c : Camera} {r : Registers} {ring : List BufferId} {served pending : List Nat}
  {s : SimStream}

/-- However long the camera runs, what it adds comes behind what waits. -/
theorem Loaded.advance (h : s.Loaded c r ring served pending) (until' : Instant) :
    ∃ more, (s.advance c r until').Loaded c r ring served (pending ++ more) := by
  unfold SimStream.advance
  split
  · exact ⟨[], by rwa [List.append_nil]⟩
  · cases s.due with
    | none => exact ⟨[], by rwa [List.append_nil]⟩
    | some due =>
        -- What waits is as large as a payload, so no exposure is made in part.
        have hexpose : ∀ n b b', Fits r ring b → c.exposure? r n b = some b' →
            Fits r ring b' ∧ c.Developed r n b' := by
          intro n b b' hb hb'
          obtain ⟨hdeveloped, hid, hcapacity⟩ := Camera.developed_of_exposure hb.capacity hb'
          exact ⟨⟨hid ▸ hb.mem, hcapacity.trans hb.capacity⟩, hdeveloped⟩
        have hx := stretch_stretched hexpose (max 1 (r.frameInterval c)) until' s.input due
          s.ticks h.empty
        simp only
        generalize stretch (c.exposure? r) (max 1 (r.frameInterval c)) until' s.input due
          s.ticks = x at hx ⊢
        refine ⟨x.exposed.map (·.1), hx.left, ?_, ?_, ?_, ?_, ?_⟩
        · refine List.rel_append h.developed ?_
          rw [List.forall₂_map_left_iff, List.forall₂_map_right_iff, List.forall₂_same]
          exact hx.exposed
        · rw [h.filled, List.append_assoc]
        · rw [hx.ticks]
          exact pairwise_lt_append_range' h.increasing h.before x.exposed.length
        · rw [hx.ticks]
          exact lt_of_mem_append_range' h.before hx.ticks_le
        · intro hbroken
          obtain ⟨n, b, hnone⟩ := hx.broken hbroken
          exact Camera.overlong_of_exposure hnone

theorem Loaded.enqueue (h : s.Loaded c r ring served pending) {b : Buffer}
    (hb : Fits r ring b) : (s.enqueue b).Loaded c r ring served pending := by
  refine { h with empty := ?_ }
  intro b' hb'
  rcases List.mem_append.1 hb' with hb' | hb'
  · exact h.empty b' hb'
  · rw [List.mem_singleton.1 hb']
    exact hb

/-- The oldest filled buffer was filled by the first tick of those that wait. -/
theorem Loaded.take (h : s.Loaded c r ring served pending) :
    (pending = [] ∧ s.take = (none, s)) ∨ ∃ tick rest b s', pending = tick :: rest ∧
      s.take = (some b, s') ∧ s'.connection = s.connection ∧ Fits r ring b ∧
      c.Developed r tick b ∧ s'.Loaded c r ring (served ++ [tick]) rest := by
  have hdeveloped := h.developed
  unfold SimStream.take
  cases houtput : s.output with
  | nil =>
      rw [houtput] at hdeveloped
      cases hdeveloped
      exact .inl ⟨rfl, rfl⟩
  | cons b waiting =>
      rw [houtput] at hdeveloped
      cases hdeveloped with
      | @cons tick _ rest _ hfirst hrest =>
          refine .inr ⟨tick, rest, b, _, rfl, rfl, rfl, hfirst.1, hfirst.2, ?_⟩
          exact { h with
            developed := hrest
            filled := by rw [h.filled, List.append_assoc]; rfl }

end SimStream
end FrameGrabber
