import PolySurvey.Scan.Bracket

/-!
# Refining brackets

A bracket can be narrowed down by bisection or by Newton's rule. Bisection needs values of opposite
sign at the ends and otherwise keeps the estimate; Newton's rule hands a bracket over to bisection
when the slope vanishes or a step leaves the bracket. An extreme point is refined as a zero of the
slope.
-/

namespace PolySurvey

/-- How a bracket is narrowed down. -/
inductive Refinement where
  /-- The estimate is kept. -/
  | none
  /-- Halving, by the sign of the middle. -/
  | bisection
  | newton
deriving DecidableEq, Repr

namespace Refinement

/-- The methods, the default one first. -/
def all : List Refinement := [.none, .bisection, .newton]

/-- The name of a method. -/
def name : Refinement → String
  | .none => "none"
  | .bisection => "bisection"
  | .newton => "newton"

/-- The method of a name. -/
def ofName? (s : String) : Option Refinement :=
  all.find? fun method => method.name = s

instance : Inhabited Refinement := ⟨.none⟩

/-- A method is found by its name, and by nothing else. -/
theorem ofName?_eq_some_iff {s : String} {method : Refinement} :
    ofName? s = some method ↔ s = method.name := by
  constructor
  · intro found
    unfold ofName? at found
    have same := List.find?_some found
    exact (of_decide_eq_true same).symm
  · rintro rfl
    cases method <;> decide

end Refinement

/-- When refining stops. -/
structure RefineLimits where
  /-- The length below which an interval, or a step, is small enough. -/
  tolerance : Float
  maxIterations : Nat
deriving DecidableEq

namespace RefineLimits

/-- The default limits. -/
def standard : RefineLimits := ⟨1e-10, 100⟩

instance : Inhabited RefineLimits := ⟨standard⟩

end RefineLimits

namespace Curve

/-- Halving the interval from `a` to `b`, where `ya` is the value at `a`. -/
def halve (curve : Curve) (tolerance : Float) : Nat → Float → Float → Float → Float
  | 0, a, b, _ => 0.5 * (a + b)
  | n + 1, a, b, ya =>
    let c := 0.5 * (a + b)
    let yc := curve.value c
    if yc == 0.0 || 0.5 * (b - a) < tolerance then c
    else if ya * yc < 0.0 then halve curve tolerance n a c ya
    else halve curve tolerance n c b yc

/-- Bisection of a bracket. -/
def bisect (curve : Curve) (bracket : Bracket) (limits : RefineLimits) : Float :=
  let ya := curve.value bracket.left
  let yb := curve.value bracket.right
  if ya == 0.0 then bracket.left
  else if yb == 0.0 then bracket.right
  else if 0.0 < ya * yb || !(ya * yb).isFinite then bracket.estimate
  else halve curve limits.tolerance limits.maxIterations bracket.left bracket.right ya

/-- The slope below which Newton's rule gives up. -/
def minSlope : Float := 1e-15

/-- Newton's rule from `x` on; nothing is returned where it gives up. -/
def approach? (curve : Curve) (bracket : Bracket) (tolerance : Float) : Nat → Float → Option Float
  | 0, x => some x
  | n + 1, x =>
    let y := curve.value x
    if y == 0.0 then some x
    else
      let slope := curve.slope x
      if slope.abs < minSlope || !slope.isFinite then none
      else
        let next := x - y / slope
        if !(bracket.left ≤ next && next ≤ bracket.right) then none
        else if (next - x).abs < tolerance then some next
        else approach? curve bracket tolerance n next

/-- Newton's rule on a bracket, and bisection where it gives up. -/
def newton (curve : Curve) (bracket : Bracket) (limits : RefineLimits) : Float :=
  (approach? curve bracket limits.tolerance limits.maxIterations bracket.estimate).getD
    (curve.bisect bracket limits)

/-- The point of a bracket that a method finds. -/
def refine (curve : Curve) (method : Refinement) (limits : RefineLimits) (bracket : Bracket) :
    Float :=
  match method with
  | .none => bracket.estimate
  | .bisection => curve.bisect bracket limits
  | .newton => curve.newton bracket limits

/-- The zeros of a curve over a domain, refined. -/
def refinedZeroPoints (curve : Curve) (d : Domain) (method : Refinement) (limits : RefineLimits) :
    List Float :=
  (curve.zeroBrackets d).map (curve.refine method limits)

/-- The extreme points of a curve over a domain, refined as zeros of its slope. -/
def refinedExtremePoints (curve : Curve) (d : Domain) (method : Refinement)
    (limits : RefineLimits) : List Float :=
  (curve.extremeBrackets d).map (curve.slopeCurve.refine method limits)

/-- Without a method the refined zeros are the estimates. -/
theorem refinedZeroPoints_none (curve : Curve) (d : Domain) (limits : RefineLimits) :
    curve.refinedZeroPoints d .none limits = curve.zeroPoints d := rfl

/-- Without a method the refined extreme points are the estimates. -/
theorem refinedExtremePoints_none (curve : Curve) (d : Domain) (limits : RefineLimits) :
    curve.refinedExtremePoints d .none limits = curve.extremePoints d := rfl

end Curve

end PolySurvey
