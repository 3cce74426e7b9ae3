-- SUMMARY: Sets of characters given as ranges of code points.

/-!
# Character ranges

A set of characters is a list of inclusive ranges of code points, in ascending order.
-/
namespace DocMark.Text

/-- Inclusive ranges of code points. -/
abbrev CharRanges := List (Nat × Nat)

/-- Whether a character lies in one of the ranges. -/
def CharRanges.has (ranges : CharRanges) (c : Char) : Bool :=
  ranges.any fun r => r.1 ≤ c.toNat && c.toNat ≤ r.2

end DocMark.Text
