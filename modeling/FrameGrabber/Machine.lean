import FrameGrabber.Span

/-!
# What a machine cannot give

Most of the library computes as if every product of words were what is left of it in a
word, every piece of memory could be had, and every instant be named. A program on a
machine panics in three places instead: over a product that does not fit into a word, if
it was built to check its arithmetic; over more memory than an address can span; and over
an instant beyond the last that its clock can name. A panic ends the program, so there is
no answer to speak of.

A function that may panic stands beside the one that goes on: its name ends in a question
mark, and it gives `none` where the program panics and else what the other gives.
-/

namespace FrameGrabber

/-- How a program was built. -/
inductive Build where
  /-- A product that does not fit into a word goes on as what is left of it. -/
  | wrapping
  /-- Such a product is a panic. -/
  | checked
  deriving DecidableEq, Repr, Inhabited

/-- The bytes of the largest piece of memory, as many as a signed word can say. -/
def memoryLimit : Nat := UInt64.size / 2 - 1

/-- The last instant that a clock can name. Its seconds are a signed word, too. -/
def Instant.latest : Instant := UInt64.size / 2 * Span.second - 1

section

variable {α : Type} {bytes : Nat} {a a' : α}

/-- What becomes of a computation that comes to `a` and has to have so many bytes in one
piece. -/
def room? (bytes : Nat) (a : α) : Option α := if memoryLimit < bytes then none else some a

theorem room?_eq_none_iff : room? bytes a = none ↔ memoryLimit < bytes := by
  unfold room?
  split
  · next h => exact iff_of_true rfl h
  · next h => exact iff_of_false (fun he => nomatch he) h

theorem room?_eq_some_iff : room? bytes a = some a' ↔ bytes ≤ memoryLimit ∧ a = a' := by
  unfold room?
  split
  · next h => exact iff_of_false (fun he => nomatch he) fun hc => Nat.not_le.2 h hc.1
  · next h =>
      rw [Option.some.injEq]
      exact ⟨fun ha => ⟨Nat.not_lt.1 h, ha⟩, fun hc => hc.2⟩

end

namespace Build

variable {α : Type} {b : Build} {n : Nat} {a a' : α}

/-- What becomes of a computation that comes to `a` and has to count up to `n` in a word. -/
def count? (b : Build) (n : Nat) (a : α) : Option α :=
  if b = checked ∧ UInt64.size ≤ n then none else some a

theorem count?_wrapping : wrapping.count? n a = some a := by
  rw [count?, if_neg (by simp)]

theorem count?_eq_none_iff : b.count? n a = none ↔ b = checked ∧ UInt64.size ≤ n := by
  unfold count?
  split
  · next h => exact iff_of_true rfl h
  · next h => exact iff_of_false (fun he => nomatch he) h

theorem count?_eq_some_iff :
    b.count? n a = some a' ↔ (b = checked → n < UInt64.size) ∧ a = a' := by
  unfold count?
  split
  · next h => exact iff_of_false (fun he => nomatch he) fun hc => Nat.not_le.2 (hc.1 h.1) h.2
  · next h =>
      have hcounted : b = checked → n < UInt64.size := fun hb =>
        Nat.lt_of_not_le fun hn => h ⟨hb, hn⟩
      rw [Option.some.injEq]
      exact ⟨fun ha => ⟨hcounted, ha⟩, fun hc => hc.2⟩

end Build
end FrameGrabber
