import PolySurvey.Polynomial.Basic

/-!
# Curves

A curve is a real function of one variable as a scan sees it: a value at each point, and a slope where
it knows one. Where it does not, the slope is a central difference.
-/

namespace PolySurvey

/-- A function of one variable with, perhaps, its slope. -/
structure Curve where
  value : Float → Float
  /-- The slope at a point, if the curve knows it. -/
  slope? : Float → Option Float := fun _ => none

namespace Curve

/-- Half the width of a central difference. -/
def differenceStep : Float := 1e-6

/-- The slope at a point: the curve's own, or a central difference of its values. -/
def slope (curve : Curve) (x : Float) : Float :=
  match curve.slope? x with
  | some s => s
  | none =>
    (curve.value (x + differenceStep) - curve.value (x - differenceStep)) / (2.0 * differenceStep)

/-- The slope of a curve as a curve of its own, whose slope is not known. -/
def slopeCurve (curve : Curve) : Curve where
  value := curve.slope

end Curve

/-- The curve of a polynomial, which knows its slope. -/
def Polynomial.curve (p : Polynomial) : Curve :=
  let descending := p.coefficients.reverse
  { value := fun x => Coefficients.horner descending x
    slope? := fun x => some (Coefficients.hornerSlope descending x).2 }

/-- The curve of a polynomial, whose coefficients are turned around once, has its values. -/
theorem Polynomial.curve_value (p : Polynomial) (x : Float) : p.curve.value x = p.value x := rfl

/-- The curve of a polynomial has its slopes. -/
theorem Polynomial.curve_slope (p : Polynomial) (x : Float) :
    p.curve.slope x = (p.valueAndSlope x).2 := rfl

end PolySurvey
