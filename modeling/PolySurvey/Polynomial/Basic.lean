import PolySurvey.Number.Cast
import PolySurvey.Polynomial.Canonical
import PolySurvey.Term.Merge
import PolySurvey.Term.Reading

/-!
# Polynomials

A polynomial has a coefficient for each exponent from zero up, and the text it was last made from: the
expression it was read from, or its canonical text.
-/

namespace PolySurvey

/-- A polynomial and its text. -/
structure Polynomial where
  /-- The coefficients in ascending order of the exponent. -/
  coefficients : List Float
  /-- The text that the polynomial was made from. -/
  source : String
  /-- There is a place for the constant. -/
  coefficients_ne_nil : coefficients ≠ []

namespace Polynomial

/-- Polynomials are equal when their texts are, and their coefficients as doubles compare: NaN is not
equal to itself, and the zeros are equal to each other. -/
instance : BEq Polynomial where
  beq p q := p.coefficients == q.coefficients && p.source == q.source

/-- The zero polynomial, with an empty text. -/
def zero : Polynomial := ⟨[0.0], "", by simp⟩

instance : Inhabited Polynomial := ⟨zero⟩

/-- The polynomial that an expression denotes. -/
def parse (expression : String) (policy : MergePolicy) : Except TermError Polynomial := do
  let terms ← readTerms expression.toList
  let merged := MergedTerms.ofTerms policy terms
  return ⟨merged.dense, expression, merged.dense_ne_nil⟩

/-- The polynomial of given coefficients, with its canonical text. Without any coefficient it is
zero. -/
def ofCoefficients (cs : List Float) : Polynomial :=
  if h : cs = [] then
    ⟨[0.0], String.ofList (Coefficients.canonical [0.0]), by simp⟩
  else
    ⟨cs, String.ofList (Coefficients.canonical cs), h⟩

/-- The largest exponent with a coefficient that is not zero. -/
def degree (p : Polynomial) : Nat := Coefficients.degree p.coefficients

/-- Whether every coefficient is zero. -/
def isZero (p : Polynomial) : Bool := Coefficients.isZero p.coefficients

/-- The value at a point. -/
def value (p : Polynomial) (x : Float) : Float := Coefficients.value p.coefficients x

/-- The value and the slope at a point. -/
def valueAndSlope (p : Polynomial) (x : Float) : Float × Float :=
  Coefficients.valueAndSlope p.coefficients x

/-- The point of the curve above `x`. -/
def point (p : Polynomial) (x : Float) : Float × Float := (x, p.value x)

/-- The canonical text. -/
def canonical (p : Polynomial) : String := String.ofList (Coefficients.canonical p.coefficients)

/-- The derivative, with its canonical text. -/
def derivative (p : Polynomial) : Polynomial :=
  ofCoefficients (Coefficients.derivative p.coefficients)

/-- The derivative of an order; the one of order zero is the polynomial itself. -/
def nthDerivative (p : Polynomial) (n : Nat) : Polynomial := n.repeat derivative p

/-- A polynomial made from coefficients has these coefficients. -/
theorem ofCoefficients_coefficients {cs : List Float} (h : cs ≠ []) :
    (ofCoefficients cs).coefficients = cs := by
  simp [ofCoefficients, h]

/-- A polynomial that is made from coefficients has its canonical text. -/
theorem source_ofCoefficients (cs : List Float) :
    (ofCoefficients cs).source = (ofCoefficients cs).canonical := by
  unfold ofCoefficients
  split <;> rfl

/-- The derivative of a polynomial is the one of its coefficients: there is always a place for the
constant. -/
theorem coefficients_derivative (p : Polynomial) :
    p.derivative.coefficients = Coefficients.derivative p.coefficients := by
  apply ofCoefficients_coefficients
  intro h
  have := congrArg List.length h
  rw [Coefficients.length_derivative] at this
  exact p.coefficients_ne_nil (List.length_eq_zero_iff.1 this)

end Polynomial

end PolySurvey
