/-!
# Ranges of code points

Properties of characters as tables: a property is the list of the ranges of code points that have
it, both ends included, in ascending order.

## Main definitions

* `Text.inRanges`: a character has the property of a table.
* `Text.ascending`: a table is in order, without overlap, and no two of its ranges adjoin.
-/

namespace DocPipeline.Text

/-- A character whose code point lies in one of the ranges. -/
def inRanges (ranges : List (Nat × Nat)) (c : Char) : Bool :=
  ranges.any fun (low, high) => decide (low ≤ c.toNat) && decide (c.toNat ≤ high)

/-- Ranges in ascending order from a bound on, with a gap between any two. -/
def ascendingFrom (bound : Nat) : List (Nat × Nat) → Bool
  | [] => true
  | (low, high) :: ranges =>
    decide (bound ≤ low) && decide (low ≤ high) && ascendingFrom (high + 2) ranges

/-- Ranges in ascending order, with a gap between any two. -/
def ascending (ranges : List (Nat × Nat)) : Bool := ascendingFrom 0 ranges

end DocPipeline.Text
