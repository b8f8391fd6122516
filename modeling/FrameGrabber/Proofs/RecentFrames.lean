import FrameGrabber.Proofs.Seconds
import FrameGrabber.RateWindow
import Mathlib.Data.List.Induction
import Mathlib.Data.List.TakeWhile

/-!
# The window keeps what is recent

The window forgets, and never looks back at what it forgot. Compare it with the whole
history of instants: what it keeps is the end of the history, and what it gave up was as
old as the window when it was given up. It is only getting older as long as the clock
does not go back, and then what is kept is what is recent, no more and no less: of
instants in order, none is older than the first.

A clock that goes back takes this away. Something old may stand behind something recent
and be kept for it, and something that was given up may become recent again, so all that
is left is where the kept instants come from and that the first of them is recent. That
the rate divides by the time between the first and the last, and never by nothing, does
not depend on the clock.
-/

namespace FrameGrabber.RateWindow

/-- The window after a history of instants. -/
def after (reach : Span) (history : List Instant) : RateWindow :=
  history.foldl (fun w t => (w.tick t).2) { reach }

theorem after_concat (reach : Span) (history : List Instant) (now : Instant) :
    after reach (history ++ [now]) = ((after reach history).tick now).2 := by
  rw [after, List.foldl_append]
  rfl

theorem tick_stamps (w : RateWindow) (now : Instant) :
    (w.tick now).2.stamps = (w.stamps ++ [now]).dropWhile fun t => w.reach ≤ now - t := rfl

theorem tick_eq (w : RateWindow) (now : Instant) :
    w.tick now = ((w.tick now).1, { reach := w.reach, stamps := (w.tick now).2.stamps }) := rfl

theorem tick_rate (w : RateWindow) (now : Instant) : (w.tick now).1 = (w.tick now).2.rate := rfl

theorem tick_reach (w : RateWindow) (now : Instant) : (w.tick now).2.reach = w.reach := rfl

theorem after_reach (reach : Span) (history : List Instant) :
    (after reach history).reach = reach := by
  induction history using List.reverseRecOn with
  | nil => rfl
  | append_singleton history now ih => rw [after_concat, tick_reach, ih]

/-! ## Instants in order -/

section Order

variable {kept : List Instant} {first last : Instant}

theorem first_le (hsorted : kept.Pairwise (· ≤ ·)) (hfirst : kept.head? = some first) :
    ∀ t ∈ kept, first ≤ t := by
  obtain ⟨rest, rfl⟩ := List.head?_eq_some_iff.1 hfirst
  intro t ht
  rcases List.mem_cons.1 ht with rfl | ht
  · exact Nat.le_refl _
  · exact (List.pairwise_cons.1 hsorted).1 t ht

theorem le_last (hsorted : kept.Pairwise (· ≤ ·)) (hlast : kept.getLast? = some last) :
    ∀ t ∈ kept, t ≤ last := by
  obtain ⟨front, rfl⟩ := List.getLast?_eq_some_iff.1 hlast
  intro t ht
  rcases List.mem_append.1 ht with ht | ht
  · exact (List.pairwise_append.1 hsorted).2.2 t ht last List.mem_cons_self
  · exact Nat.le_of_eq (List.mem_singleton.1 ht)

/-- No time passed from the first to the last only if no time passed at all. -/
theorem coincide_of_last_le (hsorted : kept.Pairwise (· ≤ ·)) (hfirst : kept.head? = some first)
    (hlast : kept.getLast? = some last) (hle : last ≤ first) : ∀ t ∈ kept, t = first :=
  fun t ht => Nat.le_antisymm (Nat.le_trans (le_last hsorted hlast t ht) hle)
    (first_le hsorted hfirst t ht)

end Order

/-! ## What is kept -/

/-- What was given up at some instant is as old as the window then, and at every later
instant. -/
theorem exists_gone (reach : Span) (history : List Instant) :
    ∃ gone, history = gone ++ (after reach history).stamps ∧
      ∀ now, (∀ t ∈ history, t ≤ now) → ∀ t ∈ gone, reach ≤ now - t := by
  induction history using List.reverseRecOn with
  | nil => exact ⟨[], rfl, fun _ _ t ht => absurd ht List.not_mem_nil⟩
  | append_singleton history now ih =>
      obtain ⟨gone, heq, hgone⟩ := ih
      rw [after_concat, tick_stamps, after_reach]
      generalize (after reach history).stamps = stamps at heq
      refine ⟨gone ++ (stamps ++ [now]).takeWhile fun t => reach ≤ now - t, ?_, ?_⟩
      · rw [List.append_assoc, List.takeWhile_append_dropWhile, ← List.append_assoc, ← heq]
      · intro later hlater t ht
        rcases List.mem_append.1 ht with ht | ht
        · exact hgone later (fun t ht => hlater t (List.mem_append_left _ ht)) t ht
        -- As old as the window at this tick, and no younger since.
        · have hage : reach ≤ now - t := by simpa using List.mem_takeWhile_imp ht
          have hnow : now ≤ later := hlater now (List.mem_append_right _ List.mem_cons_self)
          exact Nat.le_trans hage (Nat.sub_le_sub_right hnow t)

theorem after_suffix (reach : Span) (history : List Instant) :
    (after reach history).stamps <:+ history := by
  obtain ⟨gone, heq, -⟩ := exists_gone reach history
  exact ⟨gone, heq.symm⟩

theorem head_recent {w : RateWindow} {now first : Instant}
    (h : (w.tick now).2.stamps.head? = some first) : now - first < w.reach := by
  have hnot := List.head?_dropWhile_not (fun t => decide (w.reach ≤ now - t)) (w.stamps ++ [now])
  rw [← tick_stamps, h] at hnot
  exact Nat.not_le.1 (of_decide_eq_false hnot)

/-- In order, what comes after the first is as recent as the first. -/
theorem stamps_eq_filter {reach : Span} {history : List Instant} {now : Instant}
    (hsorted : (history ++ [now]).Pairwise (· ≤ ·)) :
    ((after reach history).tick now).2.stamps =
      (history ++ [now]).filter fun t => now - t < reach := by
  obtain ⟨gone, heq, hgone⟩ := exists_gone reach (history ++ [now])
  have hrecent := @head_recent (after reach history) now
  rw [after_concat] at heq
  rw [after_reach] at hrecent
  generalize ((after reach history).tick now).2.stamps = kept at heq hrecent
  have hlast : ∀ t ∈ history ++ [now], t ≤ now := le_last hsorted List.getLast?_concat
  have hold : ∀ t ∈ gone, ¬decide (now - t < reach) := by
    intro t ht
    simpa using hgone now hlast t ht
  -- The test of the loop stops at the first, so the order has to answer for the others.
  have hkept : ∀ t ∈ kept, decide (now - t < reach) := by
    intro t ht
    rw [heq] at hsorted
    have hfirst : kept.head? = some (kept.head (List.ne_nil_of_mem ht)) :=
      List.head?_eq_some_head _
    have hle := first_le (List.pairwise_append.1 hsorted).2.1 hfirst t ht
    exact decide_eq_true (Nat.lt_of_le_of_lt (Nat.sub_le_sub_left hle now) (hrecent hfirst))
  rw [heq, List.filter_append, List.filter_eq_nil_iff.2 hold, List.filter_eq_self.2 hkept,
    List.nil_append]

/-! ## The rate -/

/-- The rate of the kept instants. Nothing is measured where there are fewer than two or
no time passed; elsewhere the time that passed is what is divided by. -/
inductive Rates (kept : List Instant) : Float → Prop
  | nothing (h : kept.length < 2 ∨ ∀ first last, kept.head? = some first →
      kept.getLast? = some last → last ≤ first) : Rates kept 0.0
  | quotient {first last : Instant} (hlength : 2 ≤ kept.length)
      (hfirst : kept.head? = some first) (hlast : kept.getLast? = some last)
      (htime : first < last) (hseconds : 0.0 < Span.seconds (last - first)) :
      Rates kept ((kept.length - 1).toFloat / Span.seconds (last - first))

theorem rate_rates (w : RateWindow) : Rates w.stamps w.rate := by
  unfold rate measured?
  cases hfirst : w.stamps.head? with
  | none =>
      have hnil : w.stamps = [] := List.head?_eq_none_iff.1 hfirst
      exact .nothing (.inl (by rw [hnil]; decide))
  | some first =>
    cases hlast : w.stamps.getLast? with
    | none =>
        have hnil : w.stamps = [] := List.getLast?_eq_none_iff.1 hlast
        exact .nothing (.inl (by rw [hnil]; decide))
    | some last =>
        simp only [Bool.and_eq_true, decide_eq_true_eq]
        by_cases h : 1 < w.stamps.length ∧ 0 < last - first
        · rw [if_pos h]
          exact .quotient h.1 hfirst hlast (Nat.lt_of_sub_pos h.2) ((zero_lt_seconds _).2 h.2)
        · rw [if_neg h]
          refine .nothing ?_
          rcases Nat.lt_or_ge 1 w.stamps.length with hlength | hlength
          · refine .inr fun first' last' hfirst' hlast' => ?_
            cases hfirst.symm.trans hfirst'
            cases hlast.symm.trans hlast'
            exact Nat.sub_eq_zero_iff_le.1 (Nat.eq_zero_of_not_pos fun h' => h ⟨hlength, h'⟩)
          · exact .inl (Nat.lt_succ_of_le hlength)

theorem Rates.eq_zero {kept : List Instant} {rate : Float} (h : Rates kept rate)
    (hfew : kept.length < 2 ∨ ∃ t, ∀ t' ∈ kept, t' = t) : rate = 0.0 := by
  cases h with
  | nothing => rfl
  | quotient hlength hfirst hlast htime =>
      rcases hfew with hshort | ⟨t, ht⟩
      · exact absurd hlength (Nat.not_le.2 hshort)
      · rw [ht _ (List.mem_of_head? hfirst), ht _ (List.mem_of_getLast? hlast)] at htime
        exact absurd htime (Nat.lt_irrefl t)

theorem Rates.eq_quotient {kept : List Instant} {rate : Float} (h : Rates kept rate)
    (hsorted : kept.Pairwise (· ≤ ·))
    (hmany : ¬(kept.length < 2 ∨ ∃ t, ∀ t' ∈ kept, t' = t)) :
    ∃ first last, kept.head? = some first ∧ kept.getLast? = some last ∧ first < last ∧
      rate = (kept.length - 1).toFloat / Span.seconds (last - first) := by
  obtain ⟨hlength, hmove⟩ := not_or.1 hmany
  cases h with
  | quotient _ hfirst hlast htime => exact ⟨_, _, hfirst, hlast, htime, rfl⟩
  | nothing h =>
      rcases h with hshort | hle
      · exact absurd hshort hlength
      · have hne : kept ≠ [] := by
          rintro rfl
          exact hlength (by decide)
        have hfirst : kept.head? = some (kept.head hne) := List.head?_eq_some_head hne
        have hlast : kept.getLast? = some (kept.getLast hne) := List.getLast?_eq_some_getLast hne
        exact absurd ⟨_, coincide_of_last_le hsorted hfirst hlast (hle _ _ hfirst hlast)⟩ hmove

/-- The window agrees with the history. As long as the clock does not go back, a tick
keeps of all instants so far those that are younger than the window, in their order, and
answers with the number of the frames after the first of them over the time they took,
or zero where there is none after the first or they took no time. Whatever the clock
does, what is kept is the end of the history and begins, if at all, with an instant that
is younger than the window, and the rate is zero or divides by more than zero. A window
without length keeps nothing and knows no rate. -/
theorem tick_agrees (reach : Span) (history : List Instant) (now : Instant) :
    ∃ rate kept, (after reach history).tick now = (rate, { reach, stamps := kept }) ∧
      ((history ++ [now]).Pairwise (· ≤ ·) →
        kept = (history ++ [now]).filter (fun t => now - t < reach) ∧
        (kept.length < 2 ∨ (∃ t, ∀ t' ∈ kept, t' = t) → rate = 0.0) ∧
        (¬(kept.length < 2 ∨ ∃ t, ∀ t' ∈ kept, t' = t) →
          ∃ first last, kept.head? = some first ∧ kept.getLast? = some last ∧ first < last ∧
            rate = (kept.length - 1).toFloat / Span.seconds (last - first))) ∧
      kept <:+ history ++ [now] ∧
      (∀ first, kept.head? = some first → now - first < reach) ∧
      Rates kept rate ∧
      (reach = 0 → kept = [] ∧ rate = 0.0) := by
  have hsuffix := after_suffix reach (history ++ [now])
  rw [after_concat] at hsuffix
  have hrates := rate_rates ((after reach history).tick now).2
  rw [← tick_rate] at hrates
  have hrecent := @head_recent (after reach history) now
  rw [after_reach] at hrecent
  refine ⟨((after reach history).tick now).1, ((after reach history).tick now).2.stamps,
    (tick_eq _ now).trans (by rw [after_reach]), ?_, hsuffix, fun _ => hrecent, hrates, ?_⟩
  · intro hsorted
    exact ⟨stamps_eq_filter hsorted, hrates.eq_zero,
      hrates.eq_quotient (hsorted.sublist hsuffix.sublist)⟩
  · rintro rfl
    have hnil : ((after 0 history).tick now).2.stamps = [] := by
      rw [← List.head?_eq_none_iff]
      cases hfirst : ((after 0 history).tick now).2.stamps.head? with
      | none => rfl
      | some first => exact absurd (hrecent hfirst) (Nat.not_lt_zero _)
    exact ⟨hnil, hrates.eq_zero (.inl (by rw [hnil]; decide))⟩

/-- An instant as old as the window is not kept, two frames at one instant are; and a
window without length. -/
theorem tick_agrees_boundary :
    (∃ rate, (after Span.second [100000000, 600000000, 600000000]).tick 1100000000 =
      (rate, { reach := Span.second, stamps := [600000000, 600000000, 1100000000] }) ∧
      rate = (2 : Nat).toFloat / Span.seconds 500000000) ∧
    (after 0 [5, 3]).tick 4 = (0.0, { reach := 0, stamps := [] }) := by
  obtain ⟨rate, kept, htick, hsorted, -, -, -, -⟩ :=
    tick_agrees Span.second [100000000, 600000000, 600000000] 1100000000
  obtain ⟨hkept, -, hmany⟩ := hsorted (by decide)
  obtain ⟨_, _, hnothing, -, -, -, -, hempty⟩ := tick_agrees 0 [5, 3] 4
  obtain ⟨rfl, rfl⟩ := hempty rfl
  replace hkept : kept = [600000000, 600000000, 1100000000] := hkept
  subst hkept
  obtain ⟨first, last, hfirst, hlast, -, hrate⟩ := hmany (by
    rintro (hshort | ⟨t, ht⟩)
    · exact absurd hshort (by decide)
    · exact absurd ((ht 600000000 (by decide)).trans (ht 1100000000 (by decide)).symm) (by decide))
  cases hfirst
  cases hlast
  exact ⟨⟨rate, htick, hrate⟩, hnothing⟩

end FrameGrabber.RateWindow
