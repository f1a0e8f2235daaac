/-!
# Ranges of characters

A property of characters given by the ranges of code points that have it.
-/

namespace MapMarkup.Text

/-- A character lies in one of the ranges, both ends included. -/
def inRanges (ranges : List (Nat × Nat)) (c : Char) : Bool :=
  ranges.any fun r => r.1 ≤ c.toNat && c.toNat ≤ r.2

end MapMarkup.Text
