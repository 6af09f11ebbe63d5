import PolySurvey.Scan.Curve
import PolySurvey.Scan.Domain

/-!
# Brackets

A scan compares neighbouring samples. Two values whose product is at most zero bracket a zero, and two
slopes of neighbouring steps whose product is at most zero bracket an extreme point. A product that is
NaN brackets nothing. A sweep over the samples carries the last of them, or the last slope, from one to
the next, so brackets come in ascending order.
-/

namespace PolySurvey

/-- An interval that is known to hold a point of interest, and the first estimate of it. -/
structure Bracket where
  left : Float
  right : Float
  estimate : Float
deriving DecidableEq

/-- A sample of a curve: an abscissa and the value there. -/
structure Sample where
  x : Float
  y : Float
deriving DecidableEq

/-- The slope from one sample to another, a step apart. -/
def Sample.slopeTo (a b : Sample) (step : Float) : Float := (b.y - a.y) / step

namespace Bracket

/-- The zero bracket of two neighbouring samples. Its estimate is their middle. -/
def ofPair? (a b : Sample) : Option Bracket :=
  if a.y * b.y ≤ 0.0 then some ⟨a.x, b.x, 0.5 * (a.x + b.x)⟩ else none

/-- The state of a sweep for zeros: the sample before, and the brackets found, the latest first. -/
structure PairSweep where
  previous : Sample
  found : List Bracket := []

/-- The value of the next sample is compared with the one before. -/
def PairSweep.next (s : PairSweep) (b : Sample) : PairSweep where
  previous := b
  found := (ofPair? s.previous b).toList ++ s.found

/-- The zero brackets of a list of samples. -/
def ofPairs : List Sample → List Bracket
  | [] => []
  | first :: rest => (rest.foldl PairSweep.next { previous := first }).found.reverse

/-- The state of a sweep for extreme points: the sample before, the abscissa before that and the slope
between them, and the brackets found, the latest first. -/
structure TripleSweep where
  before : Float
  previous : Sample
  slope : Float
  found : List Bracket := []

/-- The slope to the next sample is compared with the one before. The estimate of a bracket is the
sample that the slopes share. -/
def TripleSweep.next (step : Float) (s : TripleSweep) (c : Sample) : TripleSweep :=
  let slope := s.previous.slopeTo c step
  { before := s.previous.x
    previous := c
    slope
    found := if s.slope * slope ≤ 0.0 then ⟨s.before, c.x, s.previous.x⟩ :: s.found else s.found }

/-- The extreme brackets of a list of samples. -/
def ofTriples (step : Float) : List Sample → List Bracket
  | first :: second :: rest =>
    (rest.foldl (TripleSweep.next step)
      { before := first.x, previous := second, slope := first.slopeTo second step }).found.reverse
  | _ => []

end Bracket

namespace Curve

/-- The samples of a curve over a domain. -/
def samples (curve : Curve) (d : Domain) : List Sample :=
  d.samples.map fun x => ⟨x, curve.value x⟩

/-- The zero brackets of a curve over a domain. -/
def zeroBrackets (curve : Curve) (d : Domain) : List Bracket :=
  Bracket.ofPairs (curve.samples d)

/-- The extreme brackets of a curve over a domain. -/
def extremeBrackets (curve : Curve) (d : Domain) : List Bracket :=
  Bracket.ofTriples d.step (curve.samples d)

/-- The estimated zeros of a curve over a domain. -/
def zeroPoints (curve : Curve) (d : Domain) : List Float :=
  (curve.zeroBrackets d).map Bracket.estimate

/-- The estimated extreme points of a curve over a domain. -/
def extremePoints (curve : Curve) (d : Domain) : List Float :=
  (curve.extremeBrackets d).map Bracket.estimate

end Curve

end PolySurvey
