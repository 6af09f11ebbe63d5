import PolySurvey.Proofs.Number.Zero
import PolySurvey.Proofs.Polynomial.Degree
import PolySurvey.Proofs.Scan.Neighbours

/-!
# Zeros at the top of a coefficient vector

Zeros at the highest exponents cannot be told from no coefficients there. Horner's rule meets them
first, and at a finite point it leaves each of them with the zero that it began with, so the value and
the slope are the same double. The degree and the canonical text pass over zeros, and the derivative of
a padded vector is padded. Each of these is shown for one zero and carried to any number of them.
-/

namespace PolySurvey

open Number

/-- A coefficient vector with zeros after it. -/
def padded (cs : List Float) (k : Nat) : List Float := cs ++ List.replicate k 0.0

/-- Zeros are added one by one. -/
lemma padded_succ (cs : List Float) (k : Nat) : padded cs (k + 1) = padded cs k ++ [0.0] := by
  rw [padded, List.replicate_succ', ← List.append_assoc, ← padded]

/-- Each zero takes a place. -/
lemma length_padded (cs : List Float) (k : Nat) : (padded cs k).length = cs.length + k := by
  rw [padded, List.length_append, List.length_replicate]

/-- What one zero does not change, any number of them does not change. -/
lemma eq_of_padded {α : Type} {f : List Float → α} (one : ∀ cs, f (cs ++ [0.0]) = f cs)
    (cs : List Float) (k : Nat) : f (padded cs k) = f cs := by
  induction k with
  | zero => rw [padded, List.replicate_zero, List.append_nil]
  | succ k ih => rw [padded_succ, one, ih]

namespace Coefficients

variable (cs : List Float)

/-! ## One zero -/

/-- A zero at the top is not significant. -/
lemma significant_append_zero : significant (cs ++ [0.0]) = significant cs := by
  rw [significant_append, if_pos zero_beq_zero]

/-- A zero at the top does not change whether all coefficients are zero. -/
lemma isZero_append_zero : isZero (cs ++ [0.0]) = isZero cs := by
  have zero : ((0.0 : Float) == 0) = true := zero_beq_zero
  simp [isZero, zero]

/-- A zero at the top is no term. -/
lemma descendingTerms_append_zero : descendingTerms (cs ++ [0.0]) = descendingTerms cs := by
  simp [descendingTerms, List.zipIdx_append, zero_beq_zero]

section

variable {x : Float} (finite : x.isFinite = true)

include finite

/-- Horner's rule stays at zero. -/
lemma value_append_zero_top : value (cs ++ [0.0]) x = value cs x := by
  have start : (0 : Float) * x + 0.0 = 0 := zero_mul_add_zero finite
  rw [value, horner, List.reverse_append, List.reverse_singleton, List.singleton_append,
    List.foldl_cons, start]
  rfl

/-- A zero at the top does not change the value and the slope: at a finite point, the first steps give
positive zeros. -/
lemma valueAndSlope_append_zero : valueAndSlope (cs ++ [0.0]) x = valueAndSlope cs x := by
  have start : (0 : Float) * x + 0.0 = 0 := zero_mul_add_zero finite
  have start' : (0 : Float) * x + 0 = 0 := start
  rw [valueAndSlope, hornerSlope, List.reverse_append, List.reverse_singleton,
    List.singleton_append, List.foldl_cons]
  simp only [start, start']
  rfl

end

/-- A zero at the top gives a zero at the top of the derivative, as its exponent is a finite double. -/
lemma derivative_append_zero (nonempty : cs ≠ []) (short : cs.length ≤ 2 ^ 64) :
    derivative (cs ++ [0.0]) = derivative cs ++ [0.0] := by
  cases cs with
  | nil => exact absurd rfl nonempty
  | cons c cs =>
    have word : cs.length + 1 ≤ 2 ^ 64 := short
    have finite : ((cs.length + 1 : Nat) : Float).isFinite = true :=
      isFinite_natCast_iff.2 (inside_of_le word)
    have top : ((cs.length + 1 : Nat) : Float) * 0.0 = 0.0 := natCast_mul_zero (Nat.succ_pos _) finite
    rw [List.cons_append, derivative_cons, derivative_cons, List.mapIdx_append, List.mapIdx_singleton,
      Nat.zero_add, top]
    rfl

/-! ## Any number of zeros -/

/-- The same of any number of zeros. -/
lemma derivative_padded (nonempty : cs ≠ []) (k : Nat) (short : cs.length + k ≤ 2 ^ 64) :
    derivative (padded cs k) = padded (derivative cs) k := by
  induction k with
  | zero => simp [padded]
  | succ k ih =>
    have inside : (padded cs k).length ≤ 2 ^ 64 := by
      rw [length_padded]
      omega
    have nonempty : padded cs k ≠ [] := List.append_ne_nil_of_left_ne_nil nonempty _
    rw [padded_succ, derivative_append_zero _ nonempty inside, ih (by omega), padded_succ]

end Coefficients

namespace Polynomial

variable {p q : Polynomial} {k : Nat}

/-- Zeros at the top cannot be observed. A polynomial whose vector has zeros after that of another one
has the same degree, is zero if the other one is, and has the same canonical text. At every finite
point it has the same value and the same slope, so the scans over every domain report the same
brackets. Its derivative has the same vector as that of the other one with as many zeros after it. -/
theorem padding_unobservable (h : q.coefficients = padded p.coefficients k) :
    q.degree = p.degree ∧ q.isZero = p.isZero ∧ q.canonical = p.canonical ∧
      (∀ x, x.isFinite = true → q.value x = p.value x ∧ q.valueAndSlope x = p.valueAndSlope x) ∧
      (∀ d, q.curve.zeroBrackets d = p.curve.zeroBrackets d ∧
        q.curve.extremeBrackets d = p.curve.extremeBrackets d) ∧
      (q.coefficients.length ≤ 2 ^ 64 →
        q.derivative.coefficients = padded p.derivative.coefficients k) := by
  -- The scans know the polynomial by its values only, so all of them follow from this.
  have value : ∀ x, x.isFinite = true → q.value x = p.value x := by
    intro x finite
    rw [Polynomial.value, h]
    exact eq_of_padded (f := (Coefficients.value · x))
      (fun cs => Coefficients.value_append_zero_top cs finite) _ _
  refine ⟨?_, ?_, ?_, fun x finite => ⟨value x finite, ?_⟩, fun d => ?_, fun short => ?_⟩
  · rw [degree, degree, Coefficients.degree, h,
      eq_of_padded Coefficients.significant_append_zero, Coefficients.degree]
  · rw [isZero, h, eq_of_padded Coefficients.isZero_append_zero, isZero]
  · rw [canonical, canonical, Coefficients.canonical, h,
      eq_of_padded Coefficients.descendingTerms_append_zero, Coefficients.canonical]
  · rw [Polynomial.valueAndSlope, h]
    exact eq_of_padded (f := (Coefficients.valueAndSlope · x))
      (fun cs => Coefficients.valueAndSlope_append_zero cs finite) _ _
  · have samples : q.curve.samples d = p.curve.samples d := Curve.samples_congr value d
    rw [Curve.zeroBrackets, Curve.extremeBrackets, samples]
    exact ⟨rfl, rfl⟩
  · rw [h, length_padded] at short
    rw [coefficients_derivative, coefficients_derivative, h,
      Coefficients.derivative_padded _ p.coefficients_ne_nil _ short]

/-- A negative zero and NaN below two zeros at the top, looked at from the left of zero. -/
theorem padding_unobservable_nan :
    let p := ofCoefficients [-0.0, 0.0 / 0.0, 2.0]
    let q := ofCoefficients [-0.0, 0.0 / 0.0, 2.0, 0.0, 0.0]
    q.coefficients = padded p.coefficients 2 ∧ q.degree = p.degree ∧ q.canonical = p.canonical ∧
      Float.isFinite (-3.0) = true ∧ q.valueAndSlope (-3.0) = p.valueAndSlope (-3.0) ∧
      q.curve.zeroBrackets .standard = p.curve.zeroBrackets .standard ∧
      q.coefficients.length ≤ 2 ^ 64 ∧
      q.derivative.coefficients = padded p.derivative.coefficients 2 := by
  intro p q
  have h : q.coefficients = padded p.coefficients 2 := by
    rw [ofCoefficients_coefficients (by simp), ofCoefficients_coefficients (by simp)]
    rfl
  have finite : Float.isFinite (-3.0) = true := by decide +kernel
  have short : q.coefficients.length ≤ 2 ^ 64 := by decide +kernel
  obtain ⟨degree, _, canonical, values, brackets, derivative⟩ := padding_unobservable h
  exact ⟨h, degree, canonical, finite, (values _ finite).2, (brackets .standard).1, short,
    derivative short⟩

end Polynomial

end PolySurvey
