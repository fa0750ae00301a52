/-!
# Ranges of characters

A class of characters given by the ranges of its code points.
-/
namespace BuildOperator.Text

/-- The code points from `first` to `last`, both ends included. -/
abbrev Range := Nat × Nat

def inRanges (ranges : List Range) (c : Char) : Bool :=
  ranges.any fun r => r.1 ≤ c.toNat && c.toNat ≤ r.2

end BuildOperator.Text
