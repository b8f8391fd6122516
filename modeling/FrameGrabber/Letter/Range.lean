/-!
# Ranges of letters

A class of letters is a list of ranges of code points, each from its first to
its last one, ascending and apart.
-/

namespace FrameGrabber.Letter

/-- Ranges of code points: the first and the last of each. -/
abbrev Ranges := List (Nat × Nat)

def Ranges.holds (ranges : Ranges) (c : Char) : Bool :=
  ranges.any fun r => r.1 ≤ c.toNat && c.toNat ≤ r.2

end FrameGrabber.Letter
