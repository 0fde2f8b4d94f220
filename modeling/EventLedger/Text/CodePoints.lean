/-!
# Classes of characters

A class of characters is given by the ranges of its code points.
-/

namespace EventLedger.Text

/-- Whether a code point is in one of the ranges, which are given with both ends. -/
def inRanges (ranges : List (Nat × Nat)) (n : Nat) : Bool :=
  ranges.any fun r => r.1 ≤ n && n ≤ r.2

end EventLedger.Text
