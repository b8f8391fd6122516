/-!
# Counting frames

Every grab ends in one of three ways that are counted: a frame was delivered,
a frame was dropped, or none came in time. A grab that timed out counts as a
dropped frame as well, so the timeouts are always among the drops.
-/

namespace FrameGrabber

/-- Counters of a stream, and the rate that was last measured. -/
structure Counters where
  delivered : Nat := 0
  dropped : Nat := 0
  timeouts : Nat := 0
  rate : Float := 0.0
  deriving Repr, Inhabited

namespace Counters

/-- A frame was delivered; the rate is the one measured with it. -/
def recordDelivered (c : Counters) (rate : Float) : Counters :=
  { c with delivered := c.delivered + 1, rate := rate }

def recordDropped (c : Counters) : Counters := { c with dropped := c.dropped + 1 }

/-- No frame came in time, which loses one too. -/
def recordTimeout (c : Counters) : Counters :=
  { c.recordDropped with timeouts := c.timeouts + 1 }

end Counters
end FrameGrabber
