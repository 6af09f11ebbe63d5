import PolySurvey.Proofs.Number.Whole
import PolySurvey.Proofs.Polynomial.Degree
import PolySurvey.Proofs.Survey.Transparency

/-!
# Repeated differentiation

A derivative has as many places as the polynomial, and a coefficient of it is zero just when the one
from which it comes is: a multiple of a double is not rounded to zero. So each derivative takes one
from the degree until nothing is left, and the n-th one reads its coefficients n places higher up. All
of this is shown of one derivative and carried to the n-th by induction on n.
-/

namespace PolySurvey

universe u

open Number

namespace Coefficients

/-! ## One derivative -/

section

variable {R : Type u} [Mul R] [OfNat R 0] [NatCast R] {cs : List R} {i : Nat}

/-- A coefficient moves down by one place, multiplied by its exponent. -/
lemma getElem?_derivative {c : R} (h : cs[i + 1]? = some c) :
    (derivative cs)[i]? = some (((i + 1 : Nat) : R) * c) := by
  cases cs with
  | nil => cases h
  | cons b cs =>
    rw [List.getElem?_cons_succ] at h
    have inside : i < cs.length := (List.getElem?_eq_some_iff.1 h).1
    rw [derivative_cons, List.getElem?_append_left (by rwa [List.length_mapIdx]), List.getElem?_mapIdx, h]
    rfl

/-- The place at the top becomes zero. -/
lemma getElem?_derivative_top (h : i + 1 = cs.length) : (derivative cs)[i]? = some 0 := by
  cases cs with
  | nil => cases h
  | cons b cs =>
    obtain rfl : i = cs.length := Nat.succ.inj h
    rw [derivative_cons, List.getElem?_append_right (by rw [List.length_mapIdx]), List.length_mapIdx,
      Nat.sub_self]
    rfl

end

/-- An exponent occurs where its coefficient is not zero. -/
lemma occurs_iff {cs : List Float} {i : Nat} {c : Float} (h : cs[i]? = some c) :
    Occurs cs i ↔ (c == 0.0) = false := by
  constructor
  · rintro ⟨d, hd, nonzero⟩
    obtain rfl := Option.some.inj (h.symm.trans hd)
    exact nonzero
  · exact fun nonzero => ⟨c, h, nonzero⟩

/-- The coefficients that occur move down by one place, and the one of the constant disappears. -/
lemma occurs_derivative {cs : List Float} (short : cs.length ≤ 2 ^ 64) (i : Nat) :
    Occurs (derivative cs) i ↔ Occurs cs (i + 1) := by
  rcases Nat.lt_trichotomy (i + 1) cs.length with inside | top | outside
  · have h : cs[i + 1]? = some cs[i + 1] := List.getElem?_eq_getElem inside
    have finite : ((i + 1 : Nat) : Float).isFinite = true :=
      isFinite_natCast_iff.2 (inside_of_le (by omega))
    rw [occurs_iff h, occurs_iff (getElem?_derivative h),
      natCast_mul_beq_zero (Nat.succ_pos i) finite]
  · rw [occurs_iff (getElem?_derivative_top top)]
    constructor
    · intro zero
      cases zero
    · intro occurs
      exact absurd occurs.lt_length (by omega)
  · constructor
    · intro occurs
      have := occurs.lt_length
      rw [length_derivative] at this
      omega
    · intro occurs
      exact absurd occurs.lt_length (by omega)

/-- In exact arithmetic the rule holds at every place, since zeros stand above the top. -/
lemma getD_derivative {R : Type u} [CommRing R] (cs : List R) (i : Nat) :
    (derivative cs).getD i 0 = ((i + 1 : Nat) : R) * cs.getD (i + 1) 0 := by
  rw [List.getD_eq_getElem?_getD, List.getD_eq_getElem?_getD]
  rcases Nat.lt_trichotomy (i + 1) cs.length with inside | top | outside
  · have h : cs[i + 1]? = some cs[i + 1] := List.getElem?_eq_getElem inside
    rw [getElem?_derivative h, h]
    rfl
  · rw [getElem?_derivative_top top, List.getElem?_eq_none (by omega)]
    exact (mul_zero _).symm
  · have beyond : (derivative cs).length ≤ i := by
      rw [length_derivative]
      omega
    rw [List.getElem?_eq_none beyond, List.getElem?_eq_none (by omega)]
    exact (mul_zero _).symm

/-! ## The n-th derivative -/

/-- Derivatives have as many places as the polynomial. -/
lemma length_repeat_derivative {R : Type u} [Mul R] [OfNat R 0] [NatCast R] (cs : List R) (n : Nat) :
    (n.repeat derivative cs).length = cs.length := by
  induction n with
  | zero => rfl
  | succ n ih => exact (length_derivative _).trans ih

/-- Each derivative takes an exponent down by one. -/
lemma occurs_repeat_derivative {cs : List Float} (short : cs.length ≤ 2 ^ 64) (n i : Nat) :
    Occurs (n.repeat derivative cs) i ↔ Occurs cs (i + n) := by
  induction n generalizing i with
  | zero => rfl
  | succ n ih =>
    rw [Nat.repeat, occurs_derivative (by rwa [length_repeat_derivative]), ih, Nat.add_right_comm,
      Nat.add_assoc]

/-- A coefficient of the n-th derivative is the one n places higher up, multiplied by the exponents
that it has had. -/
lemma getD_repeat_derivative {R : Type u} [CommRing R] (cs : List R) (n i : Nat) :
    (n.repeat derivative cs).getD i 0 =
      (∏ k ∈ Finset.range n, ((i + k + 1 : Nat) : R)) * cs.getD (i + n) 0 := by
  induction n generalizing i with
  | zero => exact (one_mul _).symm
  | succ n ih =>
    have place : i + 1 + n = i + (n + 1) := by omega
    have shift : ∀ k, i + 1 + k + 1 = i + (k + 1) + 1 := by omega
    rw [Nat.repeat, getD_derivative, ih, place, Finset.prod_range_succ', mul_left_comm, mul_assoc]
    simp only [shift, Nat.add_zero]

/-! ## What has no coefficients left -/

/-- Where no exponent occurs, all coefficients are zero. -/
lemma isZero_of_not_occurs {cs : List Float} (h : ∀ i, ¬ Occurs cs i) : isZero cs = true := by
  rw [isZero, List.all_eq_true]
  intro c hc
  obtain ⟨i, hi⟩ := List.getElem?_of_mem hc
  have zero := mt (occurs_iff hi).2 (h i)
  exact (Bool.eq_true_of_not_eq_false zero)

/-- Where no exponent occurs, the text is empty. -/
lemma canonical_of_not_occurs {cs : List Float} (h : ∀ i, ¬ Occurs cs i) : canonical cs = [] := by
  have none : descendingTerms cs = [] := by
    rw [List.eq_nil_iff_forall_not_mem]
    exact fun term listed => h term.2 ⟨term.1, mem_descendingTerms.1 listed⟩
  rw [canonical, none]

end Coefficients

namespace Polynomial

variable (p : Polynomial) (n : Nat)

/-- The coefficients of the n-th derivative come from n derivatives of the coefficients. -/
lemma coefficients_nthDerivative :
    (p.nthDerivative n).coefficients = n.repeat Coefficients.derivative p.coefficients := by
  induction n with
  | zero => rfl
  | succ n ih =>
    show (p.nthDerivative n).derivative.coefficients = _
    rw [coefficients_derivative, ih, Nat.repeat]

/-- The derivative that is taken first counts as one. -/
lemma nthDerivative_derivative : p.derivative.nthDerivative n = p.nthDerivative (n + 1) := by
  induction n with
  | zero => rfl
  | succ n ih =>
    show (p.derivative.nthDerivative n).derivative = (p.nthDerivative (n + 1)).derivative
    rw [ih]

/-- A derivative has its canonical text. -/
lemma source_nthDerivative (h : 1 ≤ n) : (p.nthDerivative n).source = (p.nthDerivative n).canonical := by
  cases n with
  | zero => cases h
  | succ n => exact source_ofCoefficients _

variable (short : p.coefficients.length ≤ 2 ^ 64)

include short

/-- The n-th derivative takes exponents down by n. -/
lemma occurs_nthDerivative (i : Nat) :
    Coefficients.Occurs (p.nthDerivative n).coefficients i ↔
      Coefficients.Occurs p.coefficients (i + n) := by
  rw [coefficients_nthDerivative, Coefficients.occurs_repeat_derivative short]

/-- Each derivative takes one from the degree, until it is zero. -/
lemma degree_nthDerivative : (p.nthDerivative n).degree = p.degree - n := by
  have same {m : Nat} : m ≤ (p.nthDerivative n).degree ↔ m ≤ p.degree - n := by
    rw [degree, degree, Coefficients.le_degree_iff]
    simp only [occurs_nthDerivative p n short]
    rcases Nat.eq_zero_or_pos m with rfl | pos
    · simp
    · have higher : m ≤ Coefficients.degree p.coefficients - n ↔
          m + n ≤ Coefficients.degree p.coefficients := by omega
      rw [higher, Coefficients.le_degree_iff, or_iff_right (by omega), or_iff_right (by omega)]
      constructor
      · rintro ⟨i, occurs, le⟩
        exact ⟨i + n, occurs, by omega⟩
      · rintro ⟨i, occurs, le⟩
        exact ⟨i - n, by rwa [Nat.sub_add_cancel (by omega)], by omega⟩
  exact Nat.le_antisymm (same.1 (Nat.le_refl _)) (same.2 (Nat.le_refl _))

/-- Beyond the degree nothing is left. -/
lemma not_occurs_nthDerivative (h : p.degree < n) (i : Nat) :
    ¬ Coefficients.Occurs (p.nthDerivative n).coefficients i := by
  rw [occurs_nthDerivative p n short]
  intro occurs
  have le := Coefficients.le_degree_iff.2 (.inr ⟨i + n, occurs, Nat.le_refl _⟩)
  rw [← degree] at le
  omega

end Polynomial

/-- A session that derives again and again tells the texts of the derivatives one after the other,
and ends with the last of them. -/
lemma Session.run_derive (s : Session) (n : Nat) :
    (s.run (List.replicate n .derive)).1 =
        (List.range n).map (fun k => .text (s.survey.polynomial.nthDerivative (k + 1)).source) ∧
      (s.run (List.replicate n .derive)).2.survey =
        { s.survey with polynomial := s.survey.polynomial.nthDerivative n } := by
  induction n generalizing s with
  | zero => exact ⟨rfl, rfl⟩
  | succ n ih =>
    obtain ⟨replies, survey⟩ := ih (s.step .derive).2
    have next : (s.step .derive).2.survey.polynomial = s.survey.polynomial.derivative := rfl
    rw [List.replicate_succ, run_cons]
    simp only [next, Polynomial.nthDerivative_derivative] at replies survey
    refine ⟨?_, survey⟩
    rw [replies, List.range_succ_eq_map, List.map_cons, List.map_map]
    rfl

namespace Polynomial

/-- Repeated differentiation of a polynomial with any doubles as coefficients, as many as a machine
word can count. The n-th derivative has as many places as the polynomial; n is taken from the degree,
and beyond the degree nothing is left and the text is empty; a derivative has its canonical text. Its
coefficients are those of n derivatives one after the other, and in exact arithmetic each of these is
the coefficient n places higher up, multiplied by the n exponents above its own. A session that derives
n times holds the n-th derivative, and has told the texts of all of them. -/
theorem nthDerivative_spec (p : Polynomial) (n : Nat) (short : p.coefficients.length ≤ 2 ^ 64) :
    let q := p.nthDerivative n
    q.coefficients.length = p.coefficients.length ∧
      q.degree = p.degree - n ∧
      (p.degree < n → q.isZero = true ∧ q.canonical = "") ∧
      (1 ≤ n → q.source = q.canonical) ∧
      q.coefficients = n.repeat Coefficients.derivative p.coefficients ∧
      (∀ (R : Type u) [CommRing R] (cs : List R),
        (n.repeat Coefficients.derivative cs).length = cs.length ∧
          ∀ i, (n.repeat Coefficients.derivative cs).getD i 0 =
            (∏ k ∈ Finset.range n, ((i + k + 1 : Nat) : R)) * cs.getD (i + n) 0) ∧
      ∀ s : Session, s.survey.polynomial = p →
        (s.run (List.replicate n .derive)).1 =
            (List.range n).map (fun k => .text (p.nthDerivative (k + 1)).source) ∧
          (s.run (List.replicate n .derive)).2.survey = { s.survey with polynomial := q } := by
  intro q
  have coefficients := p.coefficients_nthDerivative n
  refine ⟨?_, p.degree_nthDerivative n short, ?_, p.source_nthDerivative n, coefficients, ?_, ?_⟩
  · rw [coefficients, Coefficients.length_repeat_derivative]
  · intro beyond
    -- No place is left beyond the degree; a polynomial without a nonzero place is zero and has no text.
    have nothing := p.not_occurs_nthDerivative n short beyond
    refine ⟨Coefficients.isZero_of_not_occurs nothing, ?_⟩
    rw [canonical, Coefficients.canonical_of_not_occurs nothing]
  · intro R _ cs
    exact ⟨Coefficients.length_repeat_derivative cs n, Coefficients.getD_repeat_derivative cs n⟩
  · rintro s rfl
    exact s.run_derive n

/-- An infinite coefficient between zeros: the second derivative is constant, and the third is zero. -/
theorem nthDerivative_spec_infinite :
    let p := ofCoefficients [0.0 / 0.0, 0.0, 1.0 / 0.0, 0.0]
    p.coefficients.length ≤ 2 ^ 64 ∧ (p.nthDerivative 2).degree = p.degree - 2 ∧ p.degree < 3 ∧
      (p.nthDerivative 3).isZero = true ∧ (p.nthDerivative 3).canonical = "" ∧
      (p.nthDerivative 3).source = (p.nthDerivative 3).canonical := by
  intro p
  have short : p.coefficients.length ≤ 2 ^ 64 := by decide +kernel
  have below : p.degree < 3 := by decide +kernel
  obtain ⟨_, degree, _⟩ := nthDerivative_spec.{0} p 2 short
  obtain ⟨_, _, beyond, source, _⟩ := nthDerivative_spec.{0} p 3 short
  obtain ⟨zero, text⟩ := beyond below
  exact ⟨short, degree, below, zero, text, source (by decide)⟩

end Polynomial

end PolySurvey
