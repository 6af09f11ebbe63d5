import PolySurvey.Number.Cast

/-!
# Collapsing runs of points

Points that lie close together are folded into one. A walk over the points gathers a run: a point that
lies further above the one before it than a gap allows ends the run and starts the next one, and the
mean of each run is kept when it ends. The computation is written over any type with the operations it
needs, so that it can be read over the doubles and over the rationals.
-/

namespace PolySurvey

universe u

variable {R : Type u}

/-- The distance up to which neighbours belong to one run: the gap and a millionth of it. -/
def runLimit [Add R] [Mul R] [OfScientific R] (gap : R) : R := gap * (1.0 + 1e-6)

/-- The mean of a run. The sum starts at negative zero and goes from left to right. -/
def mean [Add R] [Div R] [Neg R] [OfScientific R] [NatCast R] (run : List R) : R :=
  run.foldl (· + ·) (-0.0) / (run.length : R)

/-- The state of a walk over points: the means of the runs that have ended and the points of the
pending run, each with the latest first. -/
structure Gathering (R : Type u) where
  means : List R := []
  run : List R := []

namespace Gathering

variable [Add R] [Div R] [Neg R] [OfScientific R] [NatCast R]

/-- The pending run has ended. -/
def flush (g : Gathering R) : Gathering R where
  means := mean g.run.reverse :: g.means

/-- The next point joins the pending run. If it lies further above the last one than the limit, that run
has ended before. A difference that cannot be compared does not end a run. -/
def add [Sub R] [LT R] [DecidableLT R] (limit : R) (g : Gathering R) (p : R) : Gathering R :=
  let g :=
    match g.run with
    | [] => g
    | last :: _ => if limit < p - last then g.flush else g
  { g with run := p :: g.run }

section

variable [Sub R] [LT R] [DecidableLT R] {limit last p : R} {means run : List R}

/-- A point beyond the limit ends the pending run and starts the next one. -/
theorem add_of_lt (h : limit < p - last) :
    add limit ⟨means, last :: run⟩ p = ⟨mean (last :: run).reverse :: means, [p]⟩ := by
  simp only [add, if_pos h]
  rfl

/-- Any other point, also one that cannot be compared, joins the pending run. -/
theorem add_of_not_lt (h : ¬ limit < p - last) :
    add limit ⟨means, last :: run⟩ p = ⟨means, p :: last :: run⟩ := by
  simp only [add, if_neg h]

end

/-- The means in the order of the points, once the last run has ended. -/
def finish (g : Gathering R) : List R :=
  (if g.run.isEmpty then g else g.flush).means.reverse

end Gathering

/-- The points, each run folded into its mean. -/
def collapse [Add R] [Sub R] [Mul R] [Div R] [Neg R] [OfScientific R] [NatCast R] [LT R]
    [DecidableLT R] (points : List R) (gap : R) : List R :=
  (points.foldl (Gathering.add (runLimit gap)) {}).finish

end PolySurvey
