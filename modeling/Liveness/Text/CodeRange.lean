/-!
# Ranges of code points

A property of characters is given as a list of closed ranges of code points.
-/

namespace Liveness

/-- Whether a character lies in one of the ranges, whose two ends belong to them. -/
def inRanges (ranges : List (Nat × Nat)) (c : Char) : Bool :=
  ranges.any fun r => r.1 ≤ c.toNat && c.toNat ≤ r.2

end Liveness
