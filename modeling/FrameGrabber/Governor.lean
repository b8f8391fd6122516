import FrameGrabber.Span

/-!
# Pacing

A governor spaces starts at least one interval apart: whoever began something
at one instant is asked to wait for what is left of the interval. Time already
spent counts toward it, and more time than the interval asks for no wait.
-/

namespace FrameGrabber

/-- A target interval between two starts. -/
structure Governor where
  interval : Span
  deriving DecidableEq, Repr, Inhabited

namespace Governor

/-- The governor of a rate, which must be finite and positive, and slow rates
must leave an interval that can still be expressed. -/
def ofRate? (rate : Float) : Option Governor :=
  if rate.isFinite && 0.0 < rate then (Span.ofSeconds? (1.0 / rate)).map Governor.mk
  else none

/-- What is left of the interval once some of it has passed. -/
def delayAfter (g : Governor) (elapsed : Span) : Span := g.interval - elapsed

end Governor
end FrameGrabber
