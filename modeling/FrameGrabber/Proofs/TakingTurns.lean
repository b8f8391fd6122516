import FrameGrabber.Pool.Ledgers
import FrameGrabber.Proofs.Reclaiming

/-!
# Owner and hardware take turns

A buffer that is checked in cannot be checked in again before it is checked out, so the
two transfers take turns. The ledger sees to it by where it has the buffer's slot, and
what ties this to the past is the number of transfers so far: the slot is held after an
even number of them, and queued after an odd one. This holds for every ring by itself,
whatever else is asked of its ledger and of the others.

That a buffer has one ring only is a matter of the generations. They are numbers of 32
bits that come around, so rings are told apart if fewer than `2^32` allocations lie
between them, and among such rings all the transfers of a buffer are granted by one.
-/

namespace FrameGrabber

variable {p : Pool} {id : BufferId} {l : Ledgers} {t : Transfer} {ring : Nat}

/-! ## One ledger -/

namespace Pool

theorem state?_eq_none_iff :
    p.state? id = none ↔ id.generation ≠ p.generation ∨ p.size ≤ id.index := by
  unfold state? size
  split
  · next hg => rw [List.getElem?_eq_none_iff, or_iff_right (not_not_intro hg)]
  · next hg => exact iff_of_true rfl (.inl hg)

theorem state?_allocate {g : Generations} {n size : Nat} {s : SlotState}
    (h : (allocate g n size).1.1.state? id = some s) : s = .held := by
  obtain ⟨-, hslot⟩ := state?_eq_some_iff.1 h
  exact List.eq_of_mem_replicate (List.mem_of_getElem? hslot)

end Pool

namespace Transfer

/-- Whose turn it is after so many transfers. -/
def turn (n : Nat) : Transfer := if n % 2 = 0 then .checkIn else .checkOut

theorem target_turn (n : Nat) : (turn n).target = (turn (n + 1)).source := by
  unfold turn
  rcases Nat.mod_two_eq_zero_or_one n with h | h
  · rw [if_pos h, if_neg (by omega)]
    rfl
  · rw [if_neg (by omega), if_pos (by omega)]
    rfl

theorem source_injective {t t' : Transfer} (h : t.source = t'.source) : t = t' := by
  cases t <;> cases t' <;> first | rfl | cases h

theorem perform_eq (t : Transfer) (p : Pool) (id : BufferId) :
    t.perform p id = p.transfer id t.source t.target := by
  cases t <;> rfl

end Transfer

namespace Ledgers

/-! ## One transfer -/

theorem state?_of_pool (hp : l.pools[ring]? = some p) (id : BufferId) :
    l.state? ring id = p.state? id := by
  rw [state?, hp]
  rfl

theorem transfer_of_source (hp : l.pools[ring]? = some p) (h : p.state? id = some t.source) :
    l.transfer t ring id = (some (.ok ()), { l with
      pools := l.pools.set ring { p with slots := p.slots.set id.index t.target }
      granted := l.granted ++ [⟨ring, id, t⟩] }) := by
  simp only [transfer, hp, t.perform_eq, Pool.transfer_eq_ok h]

theorem transfer_of_foreign (hp : l.pools[ring]? = some p) (h : p.state? id = none) :
    l.transfer t ring id = (some (.error (.foreign id)), l) := by
  simp only [transfer, hp, t.perform_eq, Pool.transfer_eq_foreign h]

theorem transfer_of_wrongState (hp : l.pools[ring]? = some p) {actual : SlotState}
    (h : p.state? id = some actual) (hne : actual ≠ t.source) :
    l.transfer t ring id = (some (.error (.wrongState id actual)), l) := by
  simp only [transfer, hp, t.perform_eq, Pool.transfer_eq_wrongState h hne]

/-- A transfer is granted if the ledger has the buffer at its source, or it leaves
everything as it was. -/
theorem transfer_cases (l : Ledgers) (t : Transfer) (ring : Nat) (id : BufferId) :
    (∃ p, l.pools[ring]? = some p ∧ p.state? id = some t.source) ∨
      (l.transfer t ring id).2 = l := by
  cases hp : l.pools[ring]? with
  | none => exact .inr (by simp only [transfer, hp])
  | some p =>
    cases hs : p.state? id with
    | none => exact .inr (by rw [transfer_of_foreign hp hs])
    | some actual =>
      by_cases hsource : actual = t.source
      · exact .inl ⟨p, rfl, by rw [hs, hsource]⟩
      · exact .inr (by rw [transfer_of_wrongState hp hs hsource])

/-- One slot of one ring has changed. -/
theorem state?_transfer (hp : l.pools[ring]? = some p) (h : p.state? id = some t.source)
    (ring' : Nat) (id' : BufferId) : (l.transfer t ring id).2.state? ring' id' =
      if ring' = ring ∧ id' = id then some t.target else l.state? ring' id' := by
  rw [transfer_of_source hp h]
  by_cases hring : ring' = ring
  · subst hring
    have hlt : ring' < l.pools.length := (List.getElem?_eq_some_iff.1 hp).1
    rw [state?_of_pool (List.getElem?_set_self hlt), Pool.state?_set h, state?_of_pool hp]
    simp only [true_and]
  · rw [if_neg fun h => hring h.1]
    simp only [state?, List.getElem?_set_ne (Ne.symm hring)]

/-! ## Turns -/

/-- The transfers take turns, and the first puts the buffer in. -/
def Alternate (ts : List Transfer) : Prop := ∀ i t, ts[i]? = some t → t = Transfer.turn i

theorem Alternate.concat {ts : List Transfer} (h : Alternate ts) :
    Alternate (ts ++ [Transfer.turn ts.length]) := by
  intro i t ht
  rcases Nat.lt_trichotomy i ts.length with hi | rfl | hi
  · rw [List.getElem?_append_left hi] at ht
    exact h i t ht
  · rw [List.getElem?_concat_length] at ht
    exact (Option.some.inj ht).symm
  · rw [List.getElem?_eq_none (by rw [List.length_append]; exact hi)] at ht
    cases ht

theorem transfersOf_concat (l : Ledgers) (pools : List Pool) (g : Grant) (rings : List Nat)
    (id : BufferId) : ({ l with pools, granted := l.granted ++ [g] } : Ledgers).transfersOf rings id
      = l.transfersOf rings id ++ if g.ring ∈ rings ∧ g.id = id then [g.transfer] else [] := by
  unfold transfersOf
  rw [List.filter_append, List.map_append]
  by_cases h : g.ring ∈ rings ∧ g.id = id
  · simp [h]
  · simp [h]

/-- What the past says about the ledgers. -/
structure InTurn (l : Ledgers) : Prop where
  owned : ∀ g ∈ l.granted, l.state? g.ring g.id ≠ none
  alternate : ∀ ring id, Alternate (l.transfersOf [ring] id)
  state : ∀ ring id s, l.state? ring id = some s →
    s = (Transfer.turn (l.transfersOf [ring] id).length).source

theorem transfersOf_eq_nil (h : ∀ g ∈ l.granted, l.state? g.ring g.id ≠ none)
    (hnone : l.pools.length ≤ ring) (id : BufferId) : l.transfersOf [ring] id = [] := by
  rw [transfersOf, List.map_eq_nil_iff, List.filter_eq_nil_iff]
  intro g hg hmatch
  refine h g hg ?_
  have hring : g.ring = ring := List.mem_singleton.1 (of_decide_eq_true hmatch).1
  rw [state?, hring, List.getElem?_eq_none hnone]
  rfl

theorem state?_allocate (l : Ledgers) (count bufferSize : Nat) (ring : Nat) (id : BufferId) :
    (l.allocate count bufferSize).state? ring id =
      if ring = l.pools.length then
        (Pool.allocate l.generations count bufferSize).1.1.state? id
      else l.state? ring id := by
  show (l.pools ++ [_])[ring]?.bind _ = _
  rcases Nat.lt_trichotomy ring l.pools.length with h | rfl | h
  · rw [List.getElem?_append_left h, if_neg (Nat.ne_of_lt h)]
    rfl
  · rw [List.getElem?_concat_length, if_pos rfl]
    rfl
  · rw [if_neg (Nat.ne_of_gt h), state?, List.getElem?_eq_none (Nat.le_of_lt h),
      List.getElem?_eq_none (by rw [List.length_append]; exact h)]

theorem InTurn.allocate (h : l.InTurn) (count bufferSize : Nat) :
    (l.allocate count bufferSize).InTurn where
  owned g hg := by
    rw [state?_allocate]
    split
    · next hnew =>
        have hnone := h.owned g hg
        rw [state?, hnew, List.getElem?_eq_none (Nat.le_refl _)] at hnone
        exact absurd rfl hnone
    · exact h.owned g hg
  alternate := h.alternate
  state ring id s hs := by
    rw [state?_allocate] at hs
    split at hs
    · next hnew =>
        subst hnew
        -- A ring that was not there has granted nothing, and all its slots are held.
        show s = (Transfer.turn (l.transfersOf [l.pools.length] id).length).source
        rw [transfersOf_eq_nil h.owned (Nat.le_refl _), Pool.state?_allocate hs]
        rfl
    · exact h.state ring id s hs

theorem InTurn.transfer (h : l.InTurn) (t : Transfer) (ring : Nat) (id : BufferId) :
    (l.transfer t ring id).2.InTurn := by
  rcases transfer_cases l t ring id with ⟨p, hp, hs⟩ | hsame
  · have hstate := state?_transfer hp hs
    have hturn : t = Transfer.turn (l.transfersOf [ring] id).length :=
      Transfer.source_injective (h.state ring id t.source ((state?_of_pool hp id).trans hs))
    rw [transfer_of_source hp hs] at hstate ⊢
    refine ⟨fun g hg => ?_, fun ring' id' => ?_, fun ring' id' s hs' => ?_⟩
    · rw [hstate]
      split
      · exact fun h => nomatch h
      · next hother =>
          rcases List.mem_append.1 hg with hg | hg
          · exact h.owned g hg
          · rw [List.mem_singleton.1 hg] at hother
            exact absurd ⟨rfl, rfl⟩ hother
    · rw [transfersOf_concat]
      split
      · next hthis =>
          obtain ⟨hring, rfl⟩ := hthis
          cases List.mem_singleton.1 hring
          show Alternate (l.transfersOf [ring] id ++ [t])
          rw [hturn]
          exact (h.alternate ring id).concat
      · rw [List.append_nil]
        exact h.alternate ring' id'
    · rw [hstate] at hs'
      rw [transfersOf_concat]
      simp only [List.mem_singleton]
      split at hs'
      · next hthis =>
          obtain ⟨rfl, rfl⟩ := hthis
          cases hs'
          -- The slot has changed sides and the number of transfers its parity.
          rw [if_pos ⟨rfl, rfl⟩, List.length_append, hturn]
          exact Transfer.target_turn _
      · next hother =>
          rw [if_neg fun hthis => hother ⟨hthis.1.symm, hthis.2.symm⟩, List.append_nil]
          exact h.state ring' id' s hs'
  · rwa [hsame]

theorem InTurn.step (h : l.InTurn) (m : LedgerMove) : (l.step m).InTurn := by
  cases m with
  | allocate count bufferSize => exact h.allocate count bufferSize
  | transfer t ring id => exact h.transfer t ring id

/-! ## Generations -/

variable {g : Generations}

/-- The rings of a run have the generations in order, from the first on. -/
structure Numbered (g : Generations) (l : Ledgers) : Prop where
  generation : ∀ ring p, l.pools[ring]? = some p → p.generation = g.next + UInt32.ofNat ring
  next : l.generations.next = g.next + UInt32.ofNat l.pools.length

theorem Numbered.allocate (h : Numbered g l) (count bufferSize : Nat) :
    Numbered g (l.allocate count bufferSize) where
  generation ring p hp := by
    replace hp : (l.pools ++ [_])[ring]? = some p := hp
    rcases Nat.lt_trichotomy ring l.pools.length with hring | rfl | hring
    · rw [List.getElem?_append_left hring] at hp
      exact h.generation ring p hp
    · rw [List.getElem?_concat_length] at hp
      cases hp
      exact h.next
    · rw [List.getElem?_eq_none (by rw [List.length_append]; exact hring)] at hp
      cases hp
  next := by
    show l.generations.next + 1 = g.next + UInt32.ofNat (l.pools ++ [_]).length
    rw [h.next, List.length_append, UInt32.add_assoc, UInt32.ofNat_add]
    rfl

theorem Numbered.transfer (h : Numbered g l) (t : Transfer) (ring : Nat) (id : BufferId) :
    Numbered g (l.transfer t ring id).2 := by
  rcases transfer_cases l t ring id with ⟨p, hp, hs⟩ | hsame
  · rw [transfer_of_source hp hs]
    refine ⟨fun ring' p' hp' => ?_, ?_⟩
    · by_cases hring : ring' = ring
      · subst hring
        rw [List.getElem?_set_self (List.getElem?_eq_some_iff.1 hp).1] at hp'
        cases hp'
        exact h.generation ring' p hp
      · rw [List.getElem?_set_ne (Ne.symm hring)] at hp'
        exact h.generation ring' p' hp'
    · rw [List.length_set]
      exact h.next
  · rwa [hsame]

theorem Numbered.step (h : Numbered g l) (m : LedgerMove) : Numbered g (l.step m) := by
  cases m with
  | allocate count bufferSize => exact h.allocate count bufferSize
  | transfer t ring id => exact h.transfer t ring id

/-- Of rings that are near each other, one at most has a given generation. -/
theorem Numbered.ring_eq (h : Numbered g l) {ring ring' : Nat} {p p' : Pool}
    (hp : l.pools[ring]? = some p) (hp' : l.pools[ring']? = some p')
    (hgeneration : p.generation = p'.generation) (hnear : ring < ring' + UInt32.size)
    (hnear' : ring' < ring + UInt32.size) : ring = ring' := by
  rw [h.generation ring p hp, h.generation ring' p' hp'] at hgeneration
  have hmod := congrArg UInt32.toNat ((UInt32.add_right_inj _).1 hgeneration)
  rw [UInt32.toNat_ofNat', UInt32.toNat_ofNat'] at hmod
  have hsize : UInt32.size = 2 ^ 32 := rfl
  omega

/-! ## Runs -/

theorem run_inTurn (g : Generations) (moves : List LedgerMove) :
    (run moves { generations := g }).InTurn ∧ Numbered g (run moves { generations := g }) := by
  have hrun : ∀ l : Ledgers, l.InTurn → Numbered g l →
      (run moves l).InTurn ∧ Numbered g (run moves l) := by
    induction moves with
    | nil => exact fun l h h' => ⟨h, h'⟩
    | cons m moves ih => exact fun l h h' => ih (l.step m) (h.step m) (h'.step m)
  refine hrun _ ⟨fun g hg => absurd hg List.not_mem_nil, fun _ _ i t ht => ?_, ?_⟩ ⟨?_, ?_⟩
  · cases ht
  · intro ring id s hs
    cases hs
  · intro ring p hp
    cases hp
  · exact (UInt32.add_zero _).symm

theorem pool_of_state? (h : l.state? ring id ≠ none) :
    ∃ p, l.pools[ring]? = some p ∧ id.generation = p.generation := by
  cases hp : l.pools[ring]? with
  | none => exact absurd (by rw [state?, hp]; rfl) h
  | some p =>
      rw [state?_of_pool hp] at h
      obtain ⟨s, hs⟩ := Option.ne_none_iff_exists'.1 h
      exact ⟨p, rfl, (Pool.state?_eq_some_iff.1 hs).1⟩

/-- Fewer than `2^32` allocations lie between any two of the rings. -/
def Near (rings : List Nat) : Prop :=
  ∀ ring ∈ rings, ∀ ring' ∈ rings, ring < ring' + UInt32.size

instance (rings : List Nat) : Decidable (Near rings) :=
  inferInstanceAs (Decidable (∀ ring ∈ rings, ∀ ring' ∈ rings, ring < ring' + UInt32.size))

/-- All that several rings granted for a buffer, one of them granted. -/
theorem InTurn.transfersOf_eq (h : l.InTurn) (hnumbered : Numbered g l) {rings : List Nat}
    (hnear : Near rings) (id : BufferId) :
    l.transfersOf rings id = [] ∨ ∃ ring, l.transfersOf rings id = l.transfersOf [ring] id := by
  by_cases hany : ∃ first ∈ l.granted, first.ring ∈ rings ∧ first.id = id
  · obtain ⟨first, hfirst, hring, rfl⟩ := hany
    obtain ⟨p, hp, hgeneration⟩ := pool_of_state? (h.owned first hfirst)
    refine .inr ⟨first.ring, congrArg (List.map _) (List.filter_congr fun other hother => ?_)⟩
    rw [decide_eq_decide, List.mem_singleton]
    constructor
    · rintro ⟨hring', hid⟩
      obtain ⟨p', hp', hgeneration'⟩ := pool_of_state? (h.owned other hother)
      refine ⟨hnumbered.ring_eq hp' hp ?_ (hnear _ hring' _ hring) (hnear _ hring _ hring'), hid⟩
      rw [← hgeneration, ← hgeneration', hid]
    · rintro ⟨hring', hid⟩
      exact ⟨hring' ▸ hring, hid⟩
  · refine .inl (List.map_eq_nil_iff.2 (List.filter_eq_nil_iff.2 fun other hother hmatch => ?_))
    exact hany ⟨other, hother, of_decide_eq_true hmatch⟩

/-- What the ledger of a ring answers to a transfer, and what becomes of the ledgers. -/
structure Answers (l : Ledgers) (ring : Nat) (p : Pool) (t : Transfer) (id : BufferId) :
    Prop where
  granted : (l.transfer t ring id).1 = some (.ok ()) ↔ p.state? id = some t.source
  moved : p.state? id = some t.source → ∀ ring' id', (l.transfer t ring id).2.state? ring' id' =
    if ring' = ring ∧ id' = id then some t.target else l.state? ring' id'
  foreign : (l.transfer t ring id).1 = some (.error (.foreign id)) ↔
    id.generation ≠ p.generation ∨ p.size ≤ id.index
  wrongState : ∀ actual, (l.transfer t ring id).1 = some (.error (.wrongState id actual)) ↔
    p.state? id = some actual ∧ actual ≠ t.source
  refused : (l.transfer t ring id).1 ≠ some (.ok ()) → (l.transfer t ring id).2 = l

theorem answers (hp : l.pools[ring]? = some p) (t : Transfer) (id : BufferId) :
    l.Answers ring p t id := by
  cases hs : p.state? id with
  | none =>
      have htransfer := @transfer_of_foreign _ _ l t ring hp hs
      have hforeign := Pool.state?_eq_none_iff.1 hs
      constructor <;> simp [htransfer, hs, hforeign]
  | some actual =>
      have hforeign : ¬(id.generation ≠ p.generation ∨ p.size ≤ id.index) := fun h => by
        rw [Pool.state?_eq_none_iff.2 h] at hs
        cases hs
      by_cases hsource : actual = t.source
      · subst hsource
        have htransfer := transfer_of_source hp hs
        refine ⟨?_, fun _ => state?_transfer hp hs, ?_, ?_, ?_⟩
        · simp [htransfer, hs]
        · simp [htransfer, hforeign]
        · simp [htransfer, hs]
        · simp [htransfer]
      · have htransfer := transfer_of_wrongState hp hs hsource
        refine ⟨?_, ?_, ?_, ?_, ?_⟩
        · simp [htransfer, hs, hsource]
        · simp [hs, hsource]
        · simp [htransfer, hforeign]
        · simp only [htransfer, hs, Option.some.injEq, Except.error.injEq,
            PoolError.wrongState.injEq, true_and]
          exact fun _ => ⟨fun h => ⟨h, h ▸ hsource⟩, And.left⟩
        · simp [htransfer]

/-- Whatever is allocated, and whatever buffer is presented to whichever ledger: each
ledger accounts for all its slots. It grants a transfer just if it has the buffer where
the transfer starts, and of all slots that there are it then moves this one; it says why
it refuses another, which moves nothing. For rings with fewer than `2^32` allocations
between them, a buffer of the one is a stranger to the other, and what all of them
together granted for a buffer are check-ins and check-outs by turns, a check-in first. -/
theorem run_keeps_account (g : Generations) (moves : List LedgerMove) (rings : List Nat)
    (hnear : Near rings) :
    let l := run moves { generations := g }
    (∀ p ∈ l.pools, p.queued + p.held = p.size) ∧
      (∀ ring p, l.pools[ring]? = some p → ∀ t id, l.Answers ring p t id) ∧
      (∀ ring ∈ rings, ∀ ring' ∈ rings, ring ≠ ring' → ∀ p p', l.pools[ring]? = some p →
        l.pools[ring']? = some p' → ∀ t id, id.generation = p'.generation →
          (l.transfer t ring id).1 = some (.error (.foreign id))) ∧
      ∀ id, Alternate (l.transfersOf rings id) := by
  intro l
  obtain ⟨hturn, hnumbered⟩ : l.InTurn ∧ Numbered g l := run_inTurn g moves
  refine ⟨fun p _ => ?_, fun ring p hp => answers hp, ?_, fun id => ?_⟩
  · rw [Nat.add_comm]
    exact p.held_add_queued
  · intro ring hring ring' hring' hne p p' hp hp' t id hid
    refine (answers hp t id).foreign.2 (.inl fun hown => hne ?_)
    exact hnumbered.ring_eq hp hp' (hown.symm.trans hid) (hnear _ hring _ hring')
      (hnear _ hring' _ hring)
  · rcases hturn.transfersOf_eq hnumbered hnear id with hnil | ⟨ring, hring⟩
    · rw [hnil]
      exact fun i t ht => nomatch ht
    · rw [hring]
      exact hturn.alternate ring id

/-- Two rings on either side of the place where generations come around. -/
theorem run_keeps_account_around :
    let moves := [.allocate 2 8, .allocate 1 8, .transfer .checkIn 0 ⟨4294967295, 1⟩,
      .transfer .checkIn 1 ⟨4294967295, 0⟩, .transfer .checkIn 0 ⟨4294967295, 1⟩,
      .transfer .checkOut 0 ⟨4294967295, 1⟩, .transfer .checkIn 1 ⟨0, 0⟩]
    let l := run moves { generations := ⟨4294967295⟩ }
    Near [0, 1] ∧ Alternate (l.transfersOf [0, 1] ⟨4294967295, 1⟩) ∧
      l.transfersOf [0, 1] ⟨4294967295, 1⟩ = [.checkIn, .checkOut] ∧
      (l.transfer .checkOut 0 ⟨0, 0⟩).1 = some (.error (.foreign ⟨0, 0⟩)) ∧
      (l.transfer .checkIn 1 ⟨0, 0⟩).1 = some (.error (.wrongState ⟨0, 0⟩ .queued)) := by
  intro moves l
  have hnear : Near [0, 1] := by decide
  obtain ⟨-, hanswers, hforeign, halternate⟩ :=
    run_keeps_account ⟨4294967295⟩ moves [0, 1] hnear
  refine ⟨hnear, halternate _, by decide, ?_, ?_⟩
  · exact hforeign 0 (by decide) 1 (by decide) (by decide) _ _ rfl rfl .checkOut ⟨0, 0⟩ rfl
  · exact ((hanswers 1 _ rfl .checkIn ⟨0, 0⟩).wrongState .queued).2 (by decide)

end Ledgers
end FrameGrabber
