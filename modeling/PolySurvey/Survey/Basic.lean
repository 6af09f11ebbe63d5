import PolySurvey.Report.Basic
import PolySurvey.Scan.Collapse
import PolySurvey.Scan.Refinement

/-!
# Surveys

A survey is a polynomial together with the settings for looking at it: where to scan, how to refine
what is found, whether to fold runs of points, and how expressions are merged. Its zeros and extreme
points are determined by it.
-/

namespace PolySurvey

/-- A polynomial and the settings for looking at it. -/
structure Survey where
  polynomial : Polynomial
  domain : Domain := .standard
  refinement : Refinement := .none
  limits : RefineLimits := .standard
  /-- What becomes of terms that share an exponent in later expressions. -/
  merge : MergePolicy := .overwrite
  collapse : Bool := false

namespace Survey

/-- The survey of a polynomial with the default settings. -/
def ofPolynomial (polynomial : Polynomial) : Survey := { polynomial }

/-- Points as the survey shows them: with the runs folded if it asks for that. -/
def fold (s : Survey) (points : List Float) : List Float :=
  if s.collapse then PolySurvey.collapse points s.domain.step else points

/-- The zeros. -/
def zeroPoints (s : Survey) : List Float :=
  s.fold (s.polynomial.curve.refinedZeroPoints s.domain s.refinement s.limits)

/-- The extreme points. -/
def extremePoints (s : Survey) : List Float :=
  s.fold (s.polynomial.curve.refinedExtremePoints s.domain s.refinement s.limits)

/-- The report of given points. -/
def reportOf (s : Survey) (zeroPoints extremePoints : List Float) : Report where
  function := s.polynomial.source
  degree := s.polynomial.degree
  zeroPoints := zeroPoints
  extremePoints := extremePoints

/-- The report. -/
def report (s : Survey) : Report := s.reportOf s.zeroPoints s.extremePoints

/-- The survey of another expression, which is merged as the survey says. -/
def withExpression (s : Survey) (expression : String) : Except TermError Survey := do
  let polynomial ← Polynomial.parse expression s.merge
  return { s with polynomial }

/-- The survey of the derivative. -/
def derive (s : Survey) : Survey := { s with polynomial := s.polynomial.derivative }

end Survey

end PolySurvey
