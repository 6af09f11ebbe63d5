import PolySurvey.Proofs.Scan.Neighbours

/-!
# What a bracket says about its samples

A scan multiplies the values of neighbouring samples, or the slopes between them, and reports those
whose product is at most zero. Finite factors have such a product when their signs are opposite, when
one of them is zero, and also when both are so small that their product is rounded to zero. Only in
this last case does a bracket promise a sign change that is not there.
-/

namespace PolySurvey

open Number

namespace Number

variable {x y : Float}

/-- Two values of opposite sign, or one of them zero. -/
def SignChange (x y : Float) : Prop :=
  (x < 0.0 ∧ 0.0 < y) ∨ (0.0 < x ∧ y < 0.0) ∨ (x == 0.0) = true ∨ (y == 0.0) = true

instance : Decidable (SignChange x y) := inferInstanceAs (Decidable (_ ∨ _))

/-- Two values of one sign whose exact product is at most half of the least positive double. -/
def Underflow (x y : Float) : Prop :=
  0 < exact x * exact y ∧ exact x * exact y ≤ exact leastPositive / 2

/-- The values of two samples change their sign, or one of them is zero, where their exact product is
not positive. -/
lemma signChange_iff (hx : IsNumber x) (hy : IsNumber y) :
    SignChange x y ↔ exact x * exact y ≤ 0 := by
  rw [SignChange, ← exact_neg_iff hx, ← exact_neg_iff hy, ← exact_pos_iff hx, ← exact_pos_iff hy,
    ← exact_eq_zero_iff hx, ← exact_eq_zero_iff hy, le_iff_lt_or_eq, mul_neg_iff, mul_eq_zero]
  tauto

/-- A product is at most zero when there is a sign change, and otherwise just when it underflows. -/
lemma mul_le_zero_iff_signChange (hx : x.isFinite = true) (hy : y.isFinite = true) :
    x * y ≤ 0.0 ↔ SignChange x y ∨ Underflow x y := by
  have pos := exact_leastPositive_pos
  rw [mul_le_zero_iff hx hy, signChange_iff (isNumber_of_isFinite hx) (isNumber_of_isFinite hy),
    Underflow]
  constructor
  · intro le
    rcases le_or_gt (exact x * exact y) 0 with nonpos | above
    · exact .inl nonpos
    · exact .inr ⟨above, le⟩
  · rintro (nonpos | ⟨_, le⟩)
    · exact nonpos.trans (by positivity)
    · exact le

/-- Where a product is at most zero, there is a sign change unless it underflows. -/
lemma signChange_iff_not_underflow (hx : x.isFinite = true) (hy : y.isFinite = true)
    (le : x * y ≤ 0.0) : SignChange x y ↔ ¬ Underflow x y := by
  constructor
  · rintro change ⟨pos, _⟩
    exact not_lt_of_ge
      ((signChange_iff (isNumber_of_isFinite hx) (isNumber_of_isFinite hy)).1 change) pos
  · exact ((mul_le_zero_iff_signChange hx hy).1 le).resolve_right

end Number

namespace Curve

/-- Every zero bracket stands on neighbouring samples, and every extreme bracket on three of them. If
the two values, or the two slopes, are finite, they change their sign or one of them is zero, unless
they have the same sign and their product underflows. -/
theorem signChange_of_mem_brackets (curve : Curve) (d : Domain) :
    (∀ b ∈ curve.zeroBrackets d,
      let y := curve.value b.left
      let z := curve.value b.right
      (∃ k, d.samples[k]? = some b.left ∧ d.samples[k + 1]? = some b.right) ∧
        (y.isFinite = true → z.isFinite = true → (SignChange y z ↔ ¬ Underflow y z))) ∧
    ∀ b ∈ curve.extremeBrackets d,
      let s := curve.stepSlope d.step b.left b.estimate
      let t := curve.stepSlope d.step b.estimate b.right
      (∃ k, d.samples[k]? = some b.left ∧ d.samples[k + 1]? = some b.estimate ∧
        d.samples[k + 2]? = some b.right) ∧
        (s.isFinite = true → t.isFinite = true → (SignChange s t ↔ ¬ Underflow s t)) := by
  constructor
  · intro b hb
    obtain ⟨k, x, y, hx, hy, le, rfl⟩ := mem_zeroBrackets.1 hb
    exact ⟨⟨k, hx, hy⟩, fun finite finite' => signChange_iff_not_underflow finite finite' le⟩
  · intro b hb
    obtain ⟨k, x, y, z, hx, hy, hz, le, rfl⟩ := mem_extremeBrackets.1 hb
    exact ⟨⟨k, hx, hy, hz⟩, fun finite finite' => signChange_iff_not_underflow finite finite' le⟩

/-- The samples of the unit interval in halves. -/
lemma samples_unitHalves : (Domain.mk 0.0 1.0 0.5).samples = [0.0, 0.5, 1.0] := by
  have valid : (Domain.mk 0.0 1.0 0.5).isValid = true := by decide +kernel
  rw [Domain.samples, if_pos valid, Domain.climb_of_lt (by decide +kernel) (by decide +kernel),
    Domain.climb_of_lt (by decide +kernel) (by decide +kernel),
    Domain.climb_of_lt (by decide +kernel) (by decide +kernel),
    Domain.climb_of_not_le (by decide +kernel)]
  decide +kernel

/-- `x ^ 2 - x` is zero at both ends of the unit interval and turns in its middle. -/
theorem signChange_of_mem_brackets_parabola :
    let curve := (Polynomial.ofCoefficients [0.0, -1.0, 1.0]).curve
    let d : Domain := ⟨0.0, 1.0, 0.5⟩
    (⟨0.0, 0.5, 0.25⟩ ∈ curve.zeroBrackets d ∧ (curve.value 0.0).isFinite = true ∧
        (curve.value 0.5).isFinite = true ∧
        (SignChange (curve.value 0.0) (curve.value 0.5) ↔
          ¬ Underflow (curve.value 0.0) (curve.value 0.5))) ∧
      ⟨0.0, 1.0, 0.5⟩ ∈ curve.extremeBrackets d ∧ (curve.stepSlope d.step 0.0 0.5).isFinite = true ∧
        (curve.stepSlope d.step 0.5 1.0).isFinite = true ∧
        (SignChange (curve.stepSlope d.step 0.0 0.5) (curve.stepSlope d.step 0.5 1.0) ↔
          ¬ Underflow (curve.stepSlope d.step 0.0 0.5) (curve.stepSlope d.step 0.5 1.0)) := by
  intro curve d
  have zero : ⟨0.0, 0.5, 0.25⟩ ∈ curve.zeroBrackets d := by
    rw [mem_zeroBrackets, samples_unitHalves]
    exact ⟨0, 0.0, 0.5, rfl, rfl, by decide +kernel, by decide +kernel⟩
  have extreme : ⟨0.0, 1.0, 0.5⟩ ∈ curve.extremeBrackets d := by
    rw [mem_extremeBrackets, samples_unitHalves]
    exact ⟨0, 0.0, 0.5, 1.0, rfl, rfl, rfl, by decide +kernel, rfl⟩
  have finite : (curve.value 0.0).isFinite = true := by decide +kernel
  have finite' : (curve.value 0.5).isFinite = true := by decide +kernel
  have slope : (curve.stepSlope d.step 0.0 0.5).isFinite = true := by decide +kernel
  have slope' : (curve.stepSlope d.step 0.5 1.0).isFinite = true := by decide +kernel
  obtain ⟨zeros, extremes⟩ := signChange_of_mem_brackets curve d
  exact ⟨⟨zero, finite, finite', (zeros _ zero).2 finite finite'⟩,
    extreme, slope, slope', (extremes _ extreme).2 slope slope'⟩

/-- A line through tiny positive values has no zero, and goes up with every step. Still a zero and an
extreme point of it are reported. -/
theorem exists_brackets_without_signChange :
    let curve := (Polynomial.ofCoefficients [1e-200, 1e-200]).curve
    let d : Domain := ⟨0.0, 1.0, 0.5⟩
    d.isValid = true ∧ d.Ends ∧
      (⟨0.0, 0.5, 0.25⟩ ∈ curve.zeroBrackets d ∧ (curve.value 0.0).isFinite = true ∧
        (curve.value 0.5).isFinite = true ∧ ¬ SignChange (curve.value 0.0) (curve.value 0.5)) ∧
      ⟨0.0, 1.0, 0.5⟩ ∈ curve.extremeBrackets d ∧ (curve.stepSlope d.step 0.0 0.5).isFinite = true ∧
        (curve.stepSlope d.step 0.5 1.0).isFinite = true ∧
        ¬ SignChange (curve.stepSlope d.step 0.0 0.5) (curve.stepSlope d.step 0.5 1.0) := by
  intro curve d
  have zero : ⟨0.0, 0.5, 0.25⟩ ∈ curve.zeroBrackets d := by
    rw [mem_zeroBrackets, samples_unitHalves]
    exact ⟨0, 0.0, 0.5, rfl, rfl, by decide +kernel, by decide +kernel⟩
  have extreme : ⟨0.0, 1.0, 0.5⟩ ∈ curve.extremeBrackets d := by
    rw [mem_extremeBrackets, samples_unitHalves]
    exact ⟨0, 0.0, 0.5, 1.0, rfl, rfl, rfl, by decide +kernel, rfl⟩
  exact ⟨by decide +kernel, ⟨3, by decide +kernel⟩,
    ⟨zero, by decide +kernel, by decide +kernel, by decide +kernel⟩,
    extreme, by decide +kernel, by decide +kernel, by decide +kernel⟩

end Curve

end PolySurvey
