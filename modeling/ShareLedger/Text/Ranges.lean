/-!
# Text.Ranges

Sets of code points, given as lists of ranges.
-/

namespace ShareLedger.Text

/-- Whether a number lies in one of the ranges, both ends included. -/
def inRanges (ranges : List (Nat × Nat)) (n : Nat) : Bool :=
  ranges.any fun (first, last) => first ≤ n && n ≤ last

end ShareLedger.Text
