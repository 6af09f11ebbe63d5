import PolySurvey.Proofs.Number.Zero
import PolySurvey.Proofs.Scan.Reported
import PolySurvey.Proofs.Scan.Runs

/-!
# Flat curves

On a curve that is zero at all samples every pair of neighbours brackets a zero, and on a constant one
every inner sample is an extreme point. The collapse folds them into one point unless a rounded step
is longer than the gap and a millionth of it. Roundings move a sample, or the middle of two, by no more
than the doubles around it lie apart, so this does not happen where the step is long compared to the
gaps between the doubles of the interval.
-/

namespace PolySurvey

open Number

/-! ## Points counted from the start -/

/-- Counted points are folded into one just when there are any and none stands apart from the one
before it. -/
lemma length_collapse_map_range' {f : Nat → Float} {gap : Float} {k n : Nat} :
    (collapse ((List.range' k n).map f) gap).length = 1 ↔
      0 < n ∧ ∀ i, k ≤ i → i + 1 < k + n → ¬ Apart gap (f i) (f (i + 1)) := by
  rw [length_collapse_eq_one_iff, List.isChain_map, List.range'_eq_map_range, List.isChain_map,
    List.isChain_range, ne_eq, List.map_eq_nil_iff, List.map_eq_nil_iff, List.range_eq_nil,
    Nat.pos_iff_ne_zero]
  refine and_congr_right fun _ => ⟨fun close i first last => ?_, fun close i hi => ?_⟩
  · obtain ⟨j, rfl⟩ := Nat.exists_eq_add_of_le first
    exact close j (by omega)
  · exact close (k + i) (by omega) (by omega)

namespace Domain

/-- The middle between an abscissa and the next one. -/
def middle (d : Domain) (i : Nat) : Float := 0.5 * (d.cursor i + d.cursor (i + 1))

/-- The largest distance between neighbouring doubles that a scan of a domain can meet: it is found at
one of the ends. -/
def widestGap (d : Domain) : Int := max (gapAt (rank d.start)) (gapAt (rank d.stop))

/-- The step of a domain is so long that roundings do not use up the millionth that the collapse
grants. -/
def Fine (d : Domain) : Prop := 3 * 10 ^ 6 * d.widestGap ≤ d.stepUnits

variable {d : Domain} {n : Nat} {x y : Float}

instance : Decidable d.Fine := inferInstanceAs (Decidable (_ ≤ _))

/-- The widest gap is not empty. -/
lemma widestGap_pos (d : Domain) : 0 < d.widestGap := lt_max_of_lt_left (gapAt_pos _)

/-- No gap between the ends of a domain is wider. -/
lemma gapAt_le_widestGap {r : Int} (low : rank d.start ≤ r) (high : r ≤ rank d.stop) :
    gapAt r ≤ d.widestGap := by
  rcases gapAt_le_or low high with ⟨le, _⟩ | ⟨le, _⟩
  · exact le_max_of_le_left le
  · exact le_max_of_le_right le

/-- The distance up to which points are folded exceeds the step by more than five sixths of a
millionth. -/
lemma le_exact_limitFactor : 1 + 5 / 6000000 ≤ exact (1.0 + 1e-6) := by
  have le : 6000005 * 2 ^ 1074 ≤ 6000000 * valueAt (rank (1.0 + 1e-6)) := by decide +kernel
  rw [← Int.cast_le (R := ℚ), Int.cast_mul, Int.cast_mul, Int.cast_pow, Int.cast_ofNat,
    Int.cast_ofNat, Int.cast_ofNat, ← unitsOfOne] at le
  rw [exact, le_div_iff₀ unitsOfOne_pos]
  linarith

namespace Checked

variable (h : d.Checked)

include h

/-- A step is at most half of a gap longer than it should be. -/
lemma two_mul_step_le (hn : d.place (n + 1) ≤ rank d.stop) :
    2 * (valueAt (d.place (n + 1)) - valueAt (d.place n)) ≤ 2 * d.stepUnits + d.widestGap := by
  have start := (h.reached n).2
  have up : d.place n ≤ d.place (n + 1) := h.place_mono (Nat.le_succ n)
  rcases up.eq_or_lt with still | moved
  · have same : valueAt (d.place n) = valueAt (d.place (n + 1)) := congrArg valueAt still
    have pos := d.widestGap_pos
    have pos' := h.step_pos
    omega
  · have pred := valueAt_succ (d.place (n + 1) - 1)
    have gap : gapAt (d.place (n + 1) - 1) ≤ d.widestGap := gapAt_le_widestGap (by omega) (by omega)
    have below := (h.nearest_succ hn).below
    norm_cast at below
    rw [Int.sub_add_cancel] at pred
    omega

/-- The middle of two samples is at most a gap away from where it should be. -/
lemma middle_near (low : -halfLargest ≤ d.start) (high : d.stop ≤ halfLargest)
    (hn : d.place (n + 1) ≤ rank d.stop) :
    (d.middle n).isFinite = true ∧
      valueAt (d.place n) + valueAt (d.place (n + 1)) ≤
        2 * (valueAt (rank (d.middle n)) + d.widestGap) ∧
      2 * valueAt (rank (d.middle n)) ≤
        valueAt (d.place n) + valueAt (d.place (n + 1)) + 2 * d.widestGap := by
  obtain ⟨number, start⟩ := h.reached n
  have up : d.place n ≤ d.place (n + 1) := h.place_mono (Nat.le_succ n)
  have first : -halfLargest ≤ d.cursor n :=
    le_of_le_of_le low (le_iff.2 ⟨isNumber_of_isFinite h.start_finite, number, start⟩)
  have order : d.cursor n ≤ d.cursor (n + 1) := le_iff.2 ⟨number, (h.reached (n + 1)).1, up⟩
  have last : d.cursor (n + 1) ≤ halfLargest := le_of_le_of_le (h.cursor_le_stop_iff.2 hn) high
  obtain ⟨finite, finite', sum⟩ := isFinite_add first order last
  obtain ⟨left, right⟩ := half_add_mem_of_isFinite finite finite' order sum
  have finite_middle : (d.middle n).isFinite = true := isFinite_of_mem finite finite' left right
  have left : d.place n ≤ rank (d.middle n) := (le_iff.1 left).2.2
  have right : rank (d.middle n) ≤ d.place (n + 1) := (le_iff.1 right).2.2
  obtain ⟨below, above⟩ : 2 * valueAt (rank (d.middle n) - 1) < valueAt (d.place n) +
      valueAt (d.place (n + 1)) ∧ valueAt (d.place n) + valueAt (d.place (n + 1)) <
      2 * valueAt (rank (d.middle n) + 1) := half_add_near finite finite' order sum
  have succ := valueAt_succ (rank (d.middle n))
  have gap := gapAt_le_widestGap (start.trans left) (right.trans hn)
  refine ⟨finite_middle, by omega, ?_⟩
  -- Only above the first of the two samples is the gap below the middle known to be one of the interval.
  rcases left.eq_or_lt with here | inside
  · have values := valueAt_strictMono.monotone up
    have pos := d.widestGap_pos
    rw [← here]
    omega
  · have pred := valueAt_succ (rank (d.middle n) - 1)
    have gap' : gapAt (rank (d.middle n) - 1) ≤ d.widestGap :=
      gapAt_le_widestGap (by omega) (by omega)
    rw [Int.sub_add_cancel] at pred
    omega

/-- Where the step is long enough, points that are not much more than a step apart belong to one run. -/
lemma not_apart (fine : d.Fine) (hx : x.isFinite = true) (hy : y.isFinite = true)
    (near : 2 * (valueAt (rank y) - valueAt (rank x)) ≤ 2 * d.stepUnits + 5 * d.widestGap) :
    ¬ Apart d.step x y := by
  obtain ⟨r, difference, number, eq⟩ := rank_sub hy hx
  obtain ⟨q, limit, number', eq'⟩ := rank_mul (y := 1.0 + 1e-6) h.step_finite rfl
  -- Rounding and clamping keep the order, so the exact values are compared.
  have le : ((valueAt (rank y) - valueAt (rank x) : Int) : ℚ) ≤
      ((valueAt (rank d.step) * valueAt (rank (1.0 + 1e-6)) : Int) / unitsOfOne : ℚ) := by
    have pos := h.step_pos
    unfold Fine at fine
    qify at near fine pos
    calc ((valueAt (rank y) - valueAt (rank x) : Int) : ℚ)
        ≤ d.stepUnits * (1 + 5 / 6000000) := by
          push_cast
          linarith
      _ ≤ d.stepUnits * exact (1.0 + 1e-6) :=
          mul_le_mul_of_nonneg_left le_exact_limitFactor pos.le
      _ = ((valueAt (rank d.step) * valueAt (rank (1.0 + 1e-6)) : Int) / unitsOfOne : ℚ) := by
          rw [exact, ← mul_div_assoc, stepUnits, Int.cast_mul]
  have order := clamp_mono (difference.mono limit le)
  rw [← eq, ← eq'] at order
  rw [Apart, runLimit, lt_iff_rank_lt number' number]
  exact not_lt_of_ge order

variable (fine : d.Fine)

include fine

/-- Where the step is long enough, neighbouring samples belong to one run. -/
lemma not_apart_cursor (hn : d.place (n + 1) ≤ rank d.stop) :
    ¬ Apart d.step (d.cursor n) (d.cursor (n + 1)) := by
  have step := h.two_mul_step_le hn
  have pos := d.widestGap_pos
  have near : 2 * (valueAt (d.place (n + 1)) - valueAt (d.place n)) ≤
      2 * d.stepUnits + 5 * d.widestGap := by omega
  have here := (h.place_mono (Nat.le_succ n)).trans hn
  exact h.not_apart fine (h.isFinite_cursor here) (h.isFinite_cursor hn) near

/-- Where the step is long enough and no sum of two samples overflows, the middles on the two sides of a
sample belong to one run. -/
lemma not_apart_middle (low : -halfLargest ≤ d.start) (high : d.stop ≤ halfLargest)
    (hn : d.place (n + 2) ≤ rank d.stop) : ¬ Apart d.step (d.middle n) (d.middle (n + 1)) := by
  have here := (h.place_mono (Nat.le_succ (n + 1))).trans hn
  have step := h.two_mul_step_le here
  have step' := h.two_mul_step_le hn
  obtain ⟨finite, below, _⟩ := h.middle_near low high here
  obtain ⟨finite', _, above⟩ := h.middle_near low high hn
  exact h.not_apart fine finite finite' (by omega)

end Checked

end Domain

namespace Curve

section

variable {curve : Curve} {d : Domain} (valid : d.isValid = true) (ends : d.Ends)

include valid ends

/-- The samples of a scan, counted from the start. -/
lemma samples_eq_map_range' : curve.samples d = (List.range' 0 d.sampleCount).map
    fun i => (⟨d.cursor i, curve.value (d.cursor i)⟩ : Sample) := by
  rw [samples, (Domain.samples_of_ends valid ends).1, List.map_map, List.range_eq_range']
  rfl

/-- What is counted is visited. -/
lemma cursor_mem_samples {i : Nat} (hi : i < d.sampleCount) : d.cursor i ∈ d.samples := by
  rw [(Domain.samples_of_ends valid ends).1]
  exact List.mem_map_of_mem (List.mem_range.2 hi)

/-- On a curve that is zero at all samples, the zeros are the middles of neighbouring samples. -/
lemma zeroPoints_of_flat (flat : ∀ x ∈ d.samples, (curve.value x == 0.0) = true)
    (many : 2 ≤ d.sampleCount) :
    curve.zeroPoints d = (List.range' 0 (d.sampleCount - 1)).map d.middle := by
  obtain ⟨n, count⟩ := Nat.exists_eq_add_of_le' many
  have zero : ∀ i ≤ n + 1, (curve.value (d.cursor i) == 0.0) = true := fun i hi =>
    flat _ (cursor_mem_samples valid ends (by omega))
  rw [zeroPoints, zeroBrackets, samples_eq_map_range' valid ends, count,
    Bracket.ofPairs_map_range', List.filter_eq_self.2, List.map_map]
  · rfl
  · intro i hi
    have := List.mem_range'_1.1 hi
    exact decide_eq_true (mul_le_zero_of_beq_zero (zero i (by omega))
      (isFinite_of_beq (zero (i + 1) (by omega)) rfl).1)

/-- On a constant curve, the extreme points are the inner samples. -/
lemma extremePoints_of_flat {c : Float} (finite : c.isFinite = true)
    (flat : ∀ x ∈ d.samples, (curve.value x == c) = true) (many : 3 ≤ d.sampleCount) :
    curve.extremePoints d = (List.range' 1 (d.sampleCount - 2)).map d.cursor := by
  have h := Domain.checked_of_isValid valid
  obtain ⟨n, count⟩ := Nat.exists_eq_add_of_le' many
  have step : 0 < rank d.step := valueAt_strictMono.lt_iff_lt.1 h.step_pos
  have level : ∀ i ≤ n + 1, ((curve.value (d.cursor (i + 1)) - curve.value (d.cursor i)) / d.step
      == 0.0) = true := fun i hi =>
    div_beq_zero (sub_beq_zero finite (flat _ (cursor_mem_samples valid ends (by omega)))
      (flat _ (cursor_mem_samples valid ends (by omega)))) h.step_finite step
  rw [extremePoints, extremeBrackets, samples_eq_map_range' valid ends, count,
    Bracket.ofTriples_map_range', List.filter_eq_self.2, List.map_map]
  · rfl
  · intro i hi
    obtain ⟨first, last⟩ := List.mem_range'_1.1 hi
    obtain ⟨j, rfl⟩ := Nat.exists_eq_add_of_le' first
    exact decide_eq_true (mul_le_zero_of_beq_zero (level j (by omega))
      (isFinite_of_beq (level (j + 1) (by omega)) rfl).1)

/-- The zeros of a curve that is zero at all samples are folded into one just when none of the middles
stands apart from the one before it. -/
lemma length_collapse_zeroPoints (flat : ∀ x ∈ d.samples, (curve.value x == 0.0) = true)
    (many : 2 ≤ d.sampleCount) : (collapse (curve.zeroPoints d) d.step).length = 1 ↔
      ∀ i, i + 2 < d.sampleCount → ¬ Apart d.step (d.middle i) (d.middle (i + 1)) := by
  rw [zeroPoints_of_flat valid ends flat many, length_collapse_map_range']
  constructor
  · rintro ⟨_, close⟩ i hi
    exact close i (Nat.zero_le i) (by omega)
  · intro close
    exact ⟨by omega, fun i _ hi => close i (by omega)⟩

/-- The extreme points of a constant curve are folded into one just when none of the inner samples
stands apart from the one before it. -/
lemma length_collapse_extremePoints {c : Float} (finite : c.isFinite = true)
    (flat : ∀ x ∈ d.samples, (curve.value x == c) = true) (many : 3 ≤ d.sampleCount) :
    (collapse (curve.extremePoints d) d.step).length = 1 ↔
      ∀ i, 0 < i → i + 2 < d.sampleCount → ¬ Apart d.step (d.cursor i) (d.cursor (i + 1)) := by
  rw [extremePoints_of_flat valid ends finite flat many, length_collapse_map_range']
  constructor
  · rintro ⟨_, close⟩ i pos hi
    exact close i pos (by omega)
  · intro close
    exact ⟨by omega, fun i pos hi => close i pos (by omega)⟩

end

/-- On a scan that ends, the zeros of a curve that is zero at all samples are folded into one point
just when none of the middles of neighbouring samples stands apart from the one before it, and the
extreme points of a constant curve just when no inner sample does. So it is where the step is long
compared to the gaps between the doubles of the interval, and, for the middles, the ends are not beyond
half of the largest double. -/
theorem collapse_flat (curve : Curve) (d : Domain) (valid : d.isValid = true) (ends : d.Ends) :
    ((∀ x ∈ d.samples, (curve.value x == 0.0) = true) → 2 ≤ d.sampleCount →
      let zeros := collapse (curve.zeroPoints d) d.step
      (zeros.length = 1 ↔
          ∀ i, i + 2 < d.sampleCount → ¬ Apart d.step (d.middle i) (d.middle (i + 1))) ∧
        (d.Fine → -halfLargest ≤ d.start → d.stop ≤ halfLargest → zeros.length = 1)) ∧
    ∀ c : Float, c.isFinite = true → (∀ x ∈ d.samples, (curve.value x == c) = true) →
      3 ≤ d.sampleCount →
      let extremes := collapse (curve.extremePoints d) d.step
      (extremes.length = 1 ↔
          ∀ i, 0 < i → i + 2 < d.sampleCount → ¬ Apart d.step (d.cursor i) (d.cursor (i + 1))) ∧
        (d.Fine → extremes.length = 1) := by
  have h := Domain.checked_of_isValid valid
  obtain ⟨_, within⟩ := Domain.samples_of_ends valid ends
  have inside : ∀ i < d.sampleCount, d.place i ≤ rank d.stop := fun i hi =>
    h.cursor_le_stop_iff.1 ((within i).2 hi)
  constructor
  · intro flat many zeros
    -- The points are the middles of neighbouring samples, one for each pair.
    have folded := length_collapse_zeroPoints valid ends flat many
    refine ⟨folded, fun fine low high => folded.2 fun i hi => ?_⟩
    exact h.not_apart_middle fine low high (inside (i + 2) hi)
  · intro c finite flat many extremes
    have folded := length_collapse_extremePoints valid ends finite flat many
    refine ⟨folded, fun fine => folded.2 fun i _ hi => ?_⟩
    exact h.not_apart_cursor fine (inside (i + 1) (by omega))

/-- Over the standard domain the zero polynomial has one zero, and a constant one extreme point. -/
theorem collapse_flat_standard :
    let zero := (Polynomial.ofCoefficients [0.0]).curve
    let constant : Curve := { value := fun _ => 5.0 }
    let d := Domain.standard
    d.isValid = true ∧ d.Ends ∧ d.Fine ∧ -halfLargest ≤ d.start ∧ d.stop ≤ halfLargest ∧
      3 ≤ d.sampleCount ∧ (∀ x ∈ d.samples, (zero.value x == 0.0) = true) ∧
      (collapse (zero.zeroPoints d) d.step).length = 1 ∧
      (collapse (constant.extremePoints d) d.step).length = 1 := by
  intro zero constant d
  have valid : d.isValid = true := by decide +kernel
  have h := Domain.checked_of_isValid valid
  have ends : d.Ends := h.ends_iff.2 fun stalls => absurd stalls.2 (by decide +kernel)
  obtain ⟨samples, within⟩ := Domain.samples_of_ends valid ends
  have fine : d.Fine := by decide +kernel
  have low : -halfLargest ≤ d.start := by decide +kernel
  have high : d.stop ≤ halfLargest := by decide +kernel
  have many : 3 ≤ d.sampleCount := (within 2).1 (by decide +kernel)
  have flat : ∀ x ∈ d.samples, (zero.value x == 0.0) = true := by
    intro x hx
    rw [samples] at hx
    obtain ⟨i, hi, rfl⟩ := List.mem_map.1 hx
    have finite : (d.cursor i).isFinite = true :=
      h.isFinite_cursor (h.cursor_le_stop_iff.1 ((within i).2 (List.mem_range.1 hi)))
    have value : zero.value (d.cursor i) = 0.0 * d.cursor i + 0.0 := rfl
    rw [value, zero_mul_add_zero finite]
    rfl
  have level : ∀ x ∈ d.samples, (constant.value x == 5.0) = true := by
    intro x _
    show ((5.0 : Float) == 5.0) = true
    decide +kernel
  obtain ⟨zeros, _⟩ := collapse_flat zero d valid ends
  obtain ⟨_, extremes⟩ := collapse_flat constant d valid ends
  exact ⟨valid, ends, fine, low, high, many, flat, (zeros flat (by omega)).2 fine low high,
    (extremes 5.0 rfl level many).2 fine⟩

/-- Far away from zero, steps are rounded to multiples of a gap that is too wide: the zero polynomial
keeps three zeros, and as a constant it keeps three extreme points. -/
theorem exists_collapse_flat_apart :
    let zero := (Polynomial.ofCoefficients [0.0]).curve
    let d : Domain := ⟨10000000000.0, 10000000000.5, 0.1⟩
    d.isValid = true ∧ d.Ends ∧ d.sampleCount = 5 ∧ (∀ x ∈ d.samples, zero.value x = 0.0) ∧
      (collapse (zero.zeroPoints d) d.step).length = 3 ∧
      (collapse (zero.extremePoints d) d.step).length = 3 := by
  intro zero d
  have valid : d.isValid = true := by decide +kernel
  have h := Domain.checked_of_isValid valid
  have past : ¬ d.cursor 5 ≤ d.stop := by decide +kernel
  have ends : d.Ends := ⟨5, past⟩
  have samples : d.samples = (List.range 5).map d.cursor :=
    Domain.samples_eq valid (h.ascends_iff.2 (h.ends_iff.1 ends)) past (by decide +kernel)
  refine ⟨valid, ends, ?_, ?_, ?_, ?_⟩
  · rw [Domain.sampleCount, samples]
    rfl
  · rw [samples]
    decide +kernel
  · rw [zeroPoints, zeroBrackets, Curve.samples, samples]
    decide +kernel
  · rw [extremePoints, extremeBrackets, Curve.samples, samples]
    decide +kernel

end Curve

end PolySurvey
