import PolySurvey.Proofs.Number.Arithmetic
import PolySurvey.Scan.Domain

/-!
# The check of a domain

The check of a domain compares rounded sums and a rounded quotient. Here it is read as statements on
places: the step moves both ends of the interval, and the interval is not much longer than the largest
number of steps.
-/

namespace PolySurvey

open Number

namespace Number

variable {x y : Float}

/-- A finite double is moved by a finite step just when it is not the place nearest to the sum. -/
lemma lt_add_iff (hx : x.isFinite = true) (hy : y.isFinite = true) (pos : 0 < valueAt (rank y)) :
    x < x + y ↔ ¬ Nearest ((valueAt (rank x) + valueAt (rank y) : Int) : ℚ) (rank x) := by
  obtain ⟨r, nearest, number, eq⟩ := rank_add hx hy
  obtain ⟨low, high⟩ := (isFinite_iff_rank (isNumber_of_isFinite hx)).1 hx
  rw [lt_iff_rank_lt (isNumber_of_isFinite hx) number, eq]
  constructor
  · intro lt self
    obtain rfl := nearest.unique self
    rw [clamp_of_finite low high] at lt
    exact lt_irrefl _ lt
  · intro moved
    have le := nearest.le_of_step pos
    have ne : rank x ≠ r := by
      intro eq
      rw [← eq] at nearest
      exact moved nearest
    -- The nearest place is above the start, or beyond all finite ones and the sum is infinite.
    rcases Int.lt_or_le r (2047 * 2 ^ 52) with finite | infinite
    · rw [clamp_of_finite (by omega) finite]
      omega
    · rw [clamp_of_le infinite]
      omega

end Number

namespace Domain

/-- The step of a domain, in multiples of the least positive double. -/
def stepUnits (d : Domain) : Int := valueAt (rank d.step)

/-- What the check of a domain says about places. -/
structure Checked (d : Domain) : Prop where
  start_finite : d.start.isFinite = true
  stop_finite : d.stop.isFinite = true
  step_finite : d.step.isFinite = true
  step_pos : 0 < d.stepUnits
  start_le : rank d.start ≤ rank d.stop
  start_moves : ¬ Nearest ((valueAt (rank d.start) + d.stepUnits : Int) : ℚ) (rank d.start)
  stop_moves : ¬ Nearest ((valueAt (rank d.stop) + d.stepUnits : Int) : ℚ) (rank d.stop)
  /-- The interval is not longer than the largest number of steps and half of one. -/
  short : 2 * (valueAt (rank d.stop) - valueAt (rank d.start)) < (2 * 10 ^ 9 + 1) * d.stepUnits

/-- A value is at most a little larger than the double that is nearest to it. -/
lemma le_of_nearest_int {v r : Int} (h : Nearest (v : ℚ) r) (nonneg : 0 ≤ r) :
    2 ^ 53 * v ≤ (2 ^ 53 + 1) * valueAt r := by
  have above : 2 * v ≤ valueAt r + valueAt (r + 1) := by exact_mod_cast h.above
  have succ := valueAt_succ r
  have pos := valueAt_nonneg nonneg
  rcases Int.lt_or_le r (2 ^ 52) with subnormal | normal
  · have := gapAt_of_lt nonneg (by omega)
    omega
  · have := gapAt_mul_le_valueAt normal
    omega

/-- The largest number of steps stands where the gaps are `2 ^ (-23)`. -/
lemma exists_gap_maxSteps : ∃ w : Int, 0 < w ∧ gapAt (rank maxSteps) = w ∧
    valueAt (rank maxSteps) = 10 ^ 9 * 2 ^ 23 * w ∧ unitsOfOne = 2 ^ 23 * w := by
  have place : rank maxSteps = ((1051 * 2 ^ 52 + 10 ^ 9 * 2 ^ 23 : Nat) : Int) := rfl
  refine ⟨2 ^ 1051, pow_pos (by decide) _, ?_, ?_, ?_⟩
  · rw [place, gapAt_place (by decide) (by decide)]
  · rw [place, valueAt_place (by decide) (by decide)]
    rfl
  · rw [unitsOfOne, show 1074 = 23 + 1051 from rfl, pow_add, Int.cast_pow, Int.cast_ofNat]

/-- A quotient that is not rounded above the largest number of steps is hardly above it. -/
lemma le_of_nearest_quotient {v s q : Int} (hs : 0 < s)
    (h : Nearest ((v : ℚ) / s * unitsOfOne) q) (le : q ≤ rank maxSteps) :
    2 ^ 24 * v ≤ (2 ^ 24 * 10 ^ 9 + 1) * s := by
  obtain ⟨w, hw, gap, value, one⟩ := exists_gap_maxSteps
  have succ := valueAt_succ (rank maxSteps)
  have here := valueAt_strictMono.monotone le
  have next := valueAt_strictMono.monotone (show q + 1 ≤ rank maxSteps + 1 by omega)
  have above := h.above
  rw [gap, value] at succ
  rw [value] at here
  rw [succ] at next
  rw [one] at above
  qify at hs hw here next
  -- All is divided by the gap at the largest number of steps, and the divisor is multiplied out.
  have scaled : 2 * (2 ^ 23 * (v : ℚ) / s) ≤ 2 * (10 ^ 9 * 2 ^ 23) + 1 := by
    apply le_of_mul_le_mul_right _ hw
    calc 2 * (2 ^ 23 * (v : ℚ) / s) * (w : ℚ)
        = 2 * ((v : ℚ) / s * (2 ^ 23 * w)) := by ring
      _ ≤ (valueAt q : ℚ) + valueAt (q + 1) := above
      _ ≤ (2 * (10 ^ 9 * 2 ^ 23) + 1) * (w : ℚ) := by linarith
  have cleared : 2 * (2 ^ 23 * (v : ℚ)) ≤ (2 * (10 ^ 9 * 2 ^ 23) + 1) * s := by
    rw [← mul_div_assoc, div_le_iff₀ hs] at scaled
    exact scaled
  norm_cast at cleared
  omega

/-- A valid domain has been checked. -/
lemma checked_of_isValid {d : Domain} (h : d.isValid = true) : d.Checked := by
  simp only [isValid, Bool.and_eq_true, decide_eq_true_eq] at h
  obtain ⟨⟨⟨⟨⟨⟨⟨⟨start, stop⟩, step⟩, pos⟩, order⟩, quotient⟩, few⟩, moves⟩, moves'⟩ := h
  have step_pos : 0 < d.stepUnits :=
    valueAt_strictMono ((zero_lt_iff_rank_pos (isNumber_of_isFinite step)).1 pos)
  have start_le : rank d.start ≤ rank d.stop :=
    (le_iff_rank_le (isNumber_of_isFinite start) (isNumber_of_isFinite stop)).1 order
  refine ⟨start, stop, step, step_pos, start_le, (lt_add_iff start step step_pos).1 moves,
    (lt_add_iff stop step step_pos).1 moves', ?_⟩
  -- The length is rounded once, and the quotient of it and the step again.
  obtain ⟨r, length, number, eq⟩ := rank_sub stop start
  have finite := isFinite_of_div number step quotient
  obtain ⟨low, high⟩ := (isFinite_iff_rank number).1 finite
  rw [eq] at low high
  rw [clamp_eq_self low high] at eq
  have nonneg : 0 ≤ r := by
    apply length.le_of_le
    have := valueAt_strictMono.monotone start_le
    norm_cast
    exact Int.sub_nonneg_of_le this
  have nonzero : rank d.step ≠ 0 := by
    intro zero
    rw [stepUnits, zero] at step_pos
    exact lt_irrefl _ step_pos
  obtain ⟨q, steps, number', eq'⟩ := rank_div finite step nonzero
  obtain ⟨low', high'⟩ := (isFinite_iff_rank number').1 quotient
  rw [eq'] at low' high'
  rw [clamp_eq_self low' high'] at eq'
  have le : q ≤ rank maxSteps := by
    rw [← eq']
    exact (le_iff_rank_le number' (isNumber_of_isFinite rfl)).1 few
  rw [eq] at steps
  have rounded := le_of_nearest_int length nonneg
  have bounded := le_of_nearest_quotient step_pos steps le
  omega

end Domain

end PolySurvey
