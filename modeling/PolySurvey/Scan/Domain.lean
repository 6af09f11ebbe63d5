import PolySurvey.Number.Rank

/-!
# Scan domains

A domain is an interval with a step. A scan visits its abscissas in ascending order: the start, and
from each abscissa the next by one addition of the step, while they do not pass the end.

An addition that rounds back to the same double would never pass the end, so the walk stops there;
`Ends` says that this does not happen. The main statements unfold the walk by one step and say that
every sample is at most the end.
-/

namespace PolySurvey

open Number

/-- An interval and the step in which it is visited. -/
structure Domain where
  /-- The first abscissa. -/
  start : Float
  /-- The bound that no abscissa passes. -/
  stop : Float
  /-- The distance between abscissas. -/
  step : Float
deriving DecidableEq

namespace Domain

/-- The default domain: from -100 to 100 in steps of one hundredth. -/
def standard : Domain := ⟨-100.0, 100.0, 0.01⟩

instance : Inhabited Domain := ⟨standard⟩

/-- The largest number of steps that a domain may take. -/
def maxSteps : Float := 1e9

/-- A domain can be scanned when its bounds are finite and in order, its step is positive and moves
the cursor at both ends, and it does not take too many steps. -/
def isValid (d : Domain) : Bool :=
  d.start.isFinite && d.stop.isFinite && d.step.isFinite && 0.0 < d.step && d.start ≤ d.stop &&
    ((d.stop - d.start) / d.step).isFinite && (d.stop - d.start) / d.step ≤ maxSteps &&
    d.start < d.start + d.step && d.stop < d.stop + d.step

/-- The abscissas from `x` on, in descending order before those already visited. -/
def visit (stop step x : Float) (visited : List Float) : List Float :=
  if x ≤ stop then
    if h : x < x + step then
      have := roomAbove_lt_of_lt h
      visit stop step (x + step) (x :: visited)
    else
      x :: visited
  else
    visited
termination_by roomAbove x

/-- The abscissas from `x` on, in ascending order. -/
def climb (stop step x : Float) : List Float :=
  (visit stop step x []).reverse

/-- The abscissas that a scan visits; there are none in an invalid domain. -/
def samples (d : Domain) : List Float :=
  if d.isValid then climb d.stop d.step d.start else []

/-- How many abscissas a scan visits. -/
def sampleCount (d : Domain) : Nat := d.samples.length

/-- The abscissa after a number of additions of the step, whether or not it passes the end. -/
def cursor (d : Domain) (n : Nat) : Float := n.repeat (· + d.step) d.start

/-- The repeated addition of the step passes the end at some point. -/
def Ends (d : Domain) : Prop := ∃ n, ¬ d.cursor n ≤ d.stop

/-- What was visited before the walk is kept behind what it visits. -/
theorem visit_append (stop step x : Float) (visited more : List Float) :
    visit stop step x (visited ++ more) = visit stop step x visited ++ more := by
  fun_induction visit stop step x visited with
  | case1 x visited hx h _ ih =>
    rw [visit, if_pos hx, dif_pos h]
    exact ih
  | case2 x visited hx h => simp [visit, hx, h]
  | case3 x visited hx => simp [visit, hx]

/-- Past the end there is nothing to visit. -/
theorem climb_of_not_le {stop step x : Float} (h : ¬ x ≤ stop) : climb stop step x = [] := by
  simp [climb, visit, h]

/-- A step of the walk: the abscissa itself, then the walk from the next one. -/
theorem climb_of_lt {stop step x : Float} (hx : x ≤ stop) (h : x < x + step) :
    climb stop step x = x :: climb stop step (x + step) := by
  have := visit_append stop step (x + step) [] [x]
  rw [climb, visit, if_pos hx, dif_pos h]
  simp only [List.nil_append] at this
  simp [this, climb]

/-- The walk stops where the step does not move the cursor. -/
theorem climb_of_not_lt {stop step x : Float} (hx : x ≤ stop) (h : ¬ x < x + step) :
    climb stop step x = [x] := by
  simp [climb, visit, hx, h]

/-- No abscissa passes the end. -/
theorem le_of_mem_climb {stop step x y : Float} (h : y ∈ climb stop step x) : y ≤ stop := by
  suffices hv : ∀ visited : List Float, (∀ z ∈ visited, z ≤ stop) →
      ∀ z ∈ visit stop step x visited, z ≤ stop from
    hv [] (by simp) y (by simpa [climb] using h)
  intro visited
  clear h
  fun_induction visit stop step x visited with
  | case1 x visited hx _ _ ih => exact fun hv => ih (List.forall_mem_cons.2 ⟨hx, hv⟩)
  | case2 x visited hx _ => exact fun hv => List.forall_mem_cons.2 ⟨hx, hv⟩
  | case3 x visited hx => exact id

/-- No sample lies above the end of the domain. -/
theorem le_of_mem_samples {d : Domain} {x : Float} (h : x ∈ d.samples) : x ≤ d.stop := by
  unfold samples at h
  split at h
  · exact le_of_mem_climb h
  · simp at h

end Domain

end PolySurvey
