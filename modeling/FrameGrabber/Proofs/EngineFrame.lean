import FrameGrabber.Proofs.FullRing

/-!
# What an engine leaves alone

An engine reaches its world through a clock and a channel only. What none of
their calls changes, the engine does not change: here that is a function `f` of
the world, such as the trace of a device or its registers, and the lemmas say
for which calls each of the engine's operations needs it.
-/

namespace FrameGrabber
namespace Engine

variable {W β : Type} {ch : Channel W} {clock : Clock W} {f : W → β}

theorem drain_frame (hnow : ∀ w, f (clock.now w).2 = f w)
    (hflush : ∀ w, f (ch.flush w).2 = f w)
    (hdequeue : ∀ span w, f (ch.dequeue span w).2 = f w) (deadline : Instant)
    (passes : Nat) (p : Pool) (w : W) :
    f (drain ch clock deadline passes p w).2 = f w := by
  induction passes generalizing p w with
  | zero => rfl
  | succ passes ih =>
      have hturn : f (clock.now (ch.flush w).2).2 = f w := by
        rw [hnow, hflush]
      simp only [drain]
      split
      · exact hflush w
      · split
        · exact hturn
        · have hpoll := hdequeue (min drainPoll (deadline - (clock.now (ch.flush w).2).1))
            (clock.now (ch.flush w).2).2
          rcases hd : ch.dequeue _ _ with ⟨_ | b, w₁⟩ <;> rw [hd, hturn] at hpoll
          · exact (ih _ w₁).trans hpoll
          · exact (ih _ w₁).trans hpoll

theorem stop_frame (hnow : ∀ w, f (clock.now w).2 = f w)
    (hflush : ∀ w, f (ch.flush w).2 = f w)
    (hdequeue : ∀ span w, f (ch.dequeue span w).2 = f w) (wait : Span) (e : Engine)
    (w : W) : f (e.stop ch clock wait w).2 = f w := by
  simp only [stop]
  rw [drain_frame hnow hflush hdequeue, hnow]

/-- A grab queues at most one buffer; what comes before that leaves `f` alone. -/
theorem grab_frame (ch : Channel W) (clock : Clock W) (hnow : ∀ w, f (clock.now w).2 = f w)
    (hdequeue : ∀ span w, f (ch.dequeue span w).2 = f w) (e : Engine) (timeout : Span)
    (w : W) :
    f (e.grab ch clock timeout w).2.2 = f w ∨
      ∃ b w', f w' = f w ∧ (e.grab ch clock timeout w).2.2 = ch.enqueue b w' := by
  have hdeq : f (ch.dequeue timeout w).2 = f w := hdequeue timeout w
  rw [grab_eq]
  rcases hd : ch.dequeue timeout w with ⟨err | b, w₁⟩ <;> rw [hd] at hdeq
  · cases err <;> exact .inl hdeq
  · have hclock : f (clock.now w₁).2 = f w := (hnow w₁).trans hdeq
    simp only
    split
    · split
      · exact .inr ⟨b.recycle, w₁, hdeq, rfl⟩
      · split
        · exact .inr ⟨b.recycle, _, hclock, rfl⟩
        · exact .inr ⟨b.recycle, _, hclock, rfl⟩
    · exact .inl hdeq

/-- A grab leaves the engine on its stream, and its ring as it was. -/
theorem grab_ring (ch : Channel W) (clock : Clock W) (e : Engine) (timeout : Span)
    (w : W) :
    (e.grab ch clock timeout w).2.1.stream = e.stream ∧
      (e.grab ch clock timeout w).2.1.pool = e.pool := by
  rw [grab_eq]
  rcases ch.dequeue timeout w with ⟨err | b, w₁⟩
  · cases err <;> exact ⟨rfl, rfl⟩
  · simp only
    split
    · split
      · exact ⟨rfl, rfl⟩
      · split
        · exact ⟨rfl, rfl⟩
        · exact ⟨rfl, rfl⟩
    · exact ⟨rfl, rfl⟩

end Engine
end FrameGrabber
