/-!
# Ranges of code points

Properties of characters are given as ascending lists of ranges. `contains` looks a character up.
-/

namespace EndpointGuard.Text

/-- The code points from `first` to `last`, both included. -/
structure CodeRange where
  first : Nat
  last : Nat

/-- The range holds the code point. -/
def CodeRange.holds (range : CodeRange) (code : Nat) : Bool :=
  range.first ≤ code && code ≤ range.last

/-- Some range of the list holds the character. -/
def contains (ranges : List CodeRange) (c : Char) : Bool :=
  ranges.any fun range ↦ range.holds c.toNat

end EndpointGuard.Text
