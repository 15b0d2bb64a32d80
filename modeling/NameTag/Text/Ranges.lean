import NameTag.Text.Basic

/-!
# Sets of code points

A property of characters is a list of ranges of code points, ends included.
-/

namespace NameTag

abbrev Ranges := List (Nat × Nat)

/-- Whether a code point lies in one of the ranges. -/
def Ranges.has (ranges : Ranges) (n : Nat) : Bool :=
  ranges.any fun (first, last) => decide (first ≤ n) && decide (n ≤ last)

end NameTag
