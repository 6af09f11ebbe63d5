/-!
# Sets of characters

A set of characters is written as the list of its ranges of code points, ends included.
-/

namespace PolySurvey.Text

/-- A set of characters as ranges of code points, ends included. -/
abbrev CodeRanges := List (Nat × Nat)

/-- Whether a character lies in one of the ranges. -/
def CodeRanges.contains (ranges : CodeRanges) (c : Char) : Bool :=
  ranges.any fun range => range.1 ≤ c.toNat && c.toNat ≤ range.2

end PolySurvey.Text
