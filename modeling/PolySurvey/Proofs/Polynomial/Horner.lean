import Mathlib.Algebra.BigOperators.Fin
import Mathlib.Tactic.Lemma
import Mathlib.Tactic.Ring
import PolySurvey.Polynomial.Basic

/-!
# Values and slopes

Horner's rule adds one coefficient at a time, so what it finds is known by induction on the
coefficients. In a ring the value is the sum of the coefficients times the powers of the point, and
the slope is the value of the derivative: a coefficient that has moved down by one place is counted
once for each place it stands above the constant.
-/

namespace PolySurvey.Coefficients

universe u

variable {R : Type u}

/-! ## One more coefficient -/

section

variable [Add R] [Mul R] [OfNat R 0] (c : R) (cs : List R) (x : R)

/-- One more coefficient at the bottom: Horner's step. -/
lemma value_cons : value (c :: cs) x = value cs x * x + c := by
  rw [value, horner, List.reverse_cons, List.foldl_append]
  rfl

/-- The step for the value and the slope. -/
lemma valueAndSlope_cons : valueAndSlope (c :: cs) x =
    ((valueAndSlope cs x).1 * x + c, (valueAndSlope cs x).2 * x + (valueAndSlope cs x).1) := by
  rw [valueAndSlope, hornerSlope, List.reverse_cons, List.foldl_append]
  rfl

/-- The value found together with the slope is the value found alone. -/
lemma valueAndSlope_fst : (valueAndSlope cs x).1 = value cs x := hornerSlope_fst cs.reverse x

end

/-! ## In a ring -/

section

variable [CommRing R] (cs : List R) (x : R)

/-- Horner's rule gives the sum of the coefficients times the powers of the point. -/
lemma value_eq_sum : value cs x = ∑ i : Fin cs.length, cs[i] * x ^ (i : Nat) := by
  induction cs with
  | nil => rfl
  | cons c cs ih =>
    have step : ∀ i : Fin cs.length, (c :: cs)[i.succ] * x ^ (i.succ : Nat) =
        cs[i] * x ^ (i : Nat) * x := by
      intro i
      rw [Fin.val_succ, pow_succ, mul_assoc]
      rfl
    rw [value_cons, ih, Finset.sum_mul, add_comm]
    symm
    calc ∑ i : Fin (c :: cs).length, (c :: cs)[i] * x ^ (i : Nat)
        = (c :: cs)[(0 : Fin (cs.length + 1))] * x ^ ((0 : Fin (cs.length + 1)) : Nat) +
            ∑ i : Fin cs.length, (c :: cs)[i.succ] * x ^ (i.succ : Nat) := Fin.sum_univ_succ _
      _ = c + ∑ i : Fin cs.length, cs[i] * x ^ (i : Nat) * x := by
        rw [Finset.sum_congr rfl fun i _ => step i, Fin.val_zero, pow_zero, mul_one]
        rfl

/-- A zero at the top does not count. -/
lemma value_append_zero : value (cs ++ [0]) x = value cs x := by
  induction cs with
  | nil =>
    rw [List.nil_append, value_cons]
    exact (add_zero _).trans (zero_mul x)
  | cons c cs ih => rw [List.cons_append, value_cons, value_cons, ih]

/-- Coefficients that are counted by their places, the first of which stands at some place. -/
lemma value_mapIdx (k : Nat) : value (cs.mapIdx fun i c => ((i + k : Nat) : R) * c) x =
    (valueAndSlope cs x).2 * x + k * value cs x := by
  induction cs generalizing k with
  | nil =>
    show (0 : R) = 0 * x + k * 0
    ring
  | cons c cs ih =>
    -- All later coefficients stand one place higher, so the induction is over the first place as well.
    have later : (fun i c => ((i + 1 + k : Nat) : R) * c) = fun i c => ((i + (k + 1) : Nat) : R) * c := by
      funext i c
      rw [Nat.add_assoc, Nat.add_comm 1 k]
    rw [List.mapIdx_cons, value_cons, later, ih, valueAndSlope_cons, valueAndSlope_fst, value_cons,
      Nat.zero_add]
    push_cast
    ring

/-- The slope is the value of the derivative. -/
lemma slope_eq_value_derivative : (valueAndSlope cs x).2 = value (derivative cs) x := by
  cases cs with
  | nil => rfl
  | cons c cs =>
    rw [derivative_cons, value_append_zero, value_mapIdx, valueAndSlope_cons, valueAndSlope_fst,
      Nat.cast_one, one_mul]

end

/-- The value, the slope and the derivative of a polynomial are those of its coefficients. The value
that is found together with the slope is, bit for bit, the value that is found alone. In exact
arithmetic it is the sum of the coefficients times the powers of the point, and the slope is the value
of the derivative there. -/
theorem valueAndSlope_eq :
    (∀ (p : Polynomial) (x : Float),
      p.value x = value p.coefficients x ∧
        p.valueAndSlope x = valueAndSlope p.coefficients x ∧
        p.derivative.coefficients = derivative p.coefficients ∧
        p.derivative.value x = value (derivative p.coefficients) x ∧
        (p.valueAndSlope x).1 = p.value x) ∧
      ∀ {R : Type u} [CommRing R] (cs : List R) (x : R),
        value cs x = ∑ i : Fin cs.length, cs[i] * x ^ (i : Nat) ∧
        (valueAndSlope cs x).2 = value (derivative cs) x := by
  constructor
  · intro p x
    have coefficients := p.coefficients_derivative
    refine ⟨rfl, rfl, coefficients, ?_, valueAndSlope_fst p.coefficients x⟩
    rw [Polynomial.value, coefficients]
  · intro R _ cs x
    exact ⟨value_eq_sum cs x, slope_eq_value_derivative cs x⟩

end PolySurvey.Coefficients
