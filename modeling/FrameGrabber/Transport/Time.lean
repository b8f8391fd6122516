import FrameGrabber.Transport

/-!
# Clocks that keep time

Where time is counted and not measured, reading a clock takes none of it, and a
sleep takes as long as it was asked for. A sleep may also take longer, as it does
where somebody else decides when to wake the sleeper.
-/

namespace FrameGrabber

variable {W : Type}

/-- What the clock of a world shows. -/
def Clock.time (c : Clock W) (w : W) : Instant := (c.now w).1

/-- Reading takes no time, and nobody sleeps too short. -/
structure Clock.Steady (c : Clock W) : Prop where
  time_now : ∀ w, c.time (c.now w).2 = c.time w
  time_sleep : ∀ span w, c.time w + span ≤ c.time (c.sleep span w)

/-- Nobody sleeps too long either. -/
def Clock.Exact (c : Clock W) : Prop := ∀ span w, c.time (c.sleep span w) = c.time w + span

/-- Nothing turns the clock back. -/
def Clock.Advances (c : Clock W) (act : W → W) : Prop := ∀ w, c.time w ≤ c.time (act w)

end FrameGrabber
