import PolySurvey.Number.Fixed
import PolySurvey.Polynomial.Coefficients

/-!
# Canonical text

The canonical text of a polynomial lists its terms from the highest exponent down, with coefficients
of two decimal places. Terms whose coefficient is zero are left out, and a plus sign stands before a
positive coefficient that is not the first. The zero polynomial has the empty text.
-/

namespace PolySurvey.Coefficients

open Number

/-- The text of one term; the constant has no power. -/
def termText (term : Float × Nat) : List Char :=
  fixed term.1 ++ if term.2 = 0 then [] else 'x' :: '^' :: Nat.toDigits 10 term.2

/-- The text of a term that follows another one. -/
def laterTermText (term : Float × Nat) : List Char :=
  if term.1 > 0.0 then '+' :: termText term else termText term

/-- The coefficients that are not zero, with their exponents, from the highest exponent down. -/
def descendingTerms (cs : List Float) : List (Float × Nat) :=
  (cs.zipIdx.filter fun term => !(term.1 == 0.0)).reverse

/-- The canonical text of a polynomial. -/
def canonical (cs : List Float) : List Char :=
  match descendingTerms cs with
  | [] => []
  | first :: later => termText first ++ later.flatMap laterTermText

end PolySurvey.Coefficients
