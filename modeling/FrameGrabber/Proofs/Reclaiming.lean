import FrameGrabber.Proofs.FullRing

/-!
# Taking a ring back

While an engine drains its stream, the ledger falls from full to empty. In
between it tracks a list of ids, the ones that the stream still has: each of
them once, and no other. A buffer of the list that comes back leaves the ledger
tracking the others, so at the end of a drain the buffers that count as
abandoned are those that the stream kept.
-/

namespace FrameGrabber
namespace Pool

/-- By the ledger the hardware has the buffers of this list, and no others. -/
structure Tracks (p : Pool) (outside : List BufferId) : Prop where
  nodup : outside.Nodup
  mem_iff : ∀ id, id ∈ outside ↔ p.state? id = some .queued
  queued_eq : p.queued = outside.length

variable {n : Nat} {p : Pool} {b : Buffer} {outside rest : List BufferId}

theorem held_add_queued (p : Pool) : p.held + p.queued = p.size := by
  unfold held queued size
  induction p.slots with
  | nil => rfl
  | cons s slots ih =>
      cases s
      · rw [List.count_cons_of_ne (by decide), List.count_cons_self, List.length_cons]
        omega
      · rw [List.count_cons_self, List.count_cons_of_ne (by decide), List.length_cons]
        omega

theorem Full.tracks (h : p.Full n) : p.Tracks (ids p.generation n) where
  nodup := ids_nodup p.generation n
  mem_iff _ := h.state?_eq_queued_iff.symm
  queued_eq := by rw [h.queued_eq, ids_length]

theorem Tracks.perm (h : p.Tracks outside) (hperm : outside.Perm rest) : p.Tracks rest where
  nodup := hperm.nodup h.nodup
  mem_iff id := by rw [← hperm.mem_iff, h.mem_iff]
  queued_eq := by rw [h.queued_eq, hperm.length_eq]

theorem reclaim_size (p : Pool) (b : Buffer) : (p.reclaim b).size = p.size := by
  unfold reclaim
  by_cases hs : p.state? b.id = some .queued
  · rw [checkOut_eq_ok hs]
    simp [size]
  · obtain ⟨e, he⟩ := checkOut_eq_error hs
    rw [he]

theorem Tracks.reclaim (h : p.Tracks (b.id :: rest)) : (p.reclaim b).Tracks rest := by
  obtain ⟨hfresh, hnodup⟩ := List.nodup_cons.1 h.nodup
  have hout : p.state? b.id = some .queued := (h.mem_iff b.id).1 List.mem_cons_self
  have hback : p.reclaim b = { p with slots := p.slots.set b.id.index .held } := by
    rw [Pool.reclaim, checkOut_eq_ok hout]
  rw [hback]
  refine ⟨hnodup, fun id => ?_, ?_⟩
  · rw [state?_set hout]
    by_cases hid : id = b.id
    · subst hid
      simp [hfresh]
    · rw [if_neg hid, ← h.mem_iff, List.mem_cons, or_iff_right hid]
  · obtain ⟨hlt, hvalue⟩ := List.getElem?_eq_some_iff.1 (state?_eq_some_iff.1 hout).2
    have hcount : p.slots.count .queued = rest.length + 1 := h.queued_eq
    rw [queued, List.count_set hlt, hvalue, hcount]
    simp

theorem Tracks.reclaimAll {bs : List Buffer} (h : p.Tracks (bs.map (·.id) ++ rest)) :
    (bs.foldl Pool.reclaim p).Tracks rest := by
  induction bs generalizing p with
  | nil => exact h
  | cons b bs ih => exact ih h.reclaim

theorem reclaimAll_size (bs : List Buffer) (p : Pool) :
    (bs.foldl reclaim p).size = p.size := by
  induction bs generalizing p with
  | nil => rfl
  | cons b bs ih => rw [List.foldl_cons, ih, reclaim_size]

end Pool
end FrameGrabber
