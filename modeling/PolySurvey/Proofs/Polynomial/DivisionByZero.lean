import PolySurvey.Proofs.Number.Whole
import PolySurvey.Proofs.Polynomial.Rereading

/-!
# Derivatives that are not finite

The derivative of a polynomial that was read from an expression has a degree whose exponent can be
read, so its canonical text can be read back. A coefficient that is not finite does not come back: its
word is passed over, so what is read is the power alone, or nothing for the constant. So reading the
text back keeps the infinities and NaN of a derivative only if it has none.
-/

namespace PolySurvey

open Number

/-- Where the first polynomial has an infinite coefficient or NaN, the second has one too. -/
def KeepsNonFinite (p q : Polynomial) : Prop :=
  ∀ (n : Nat) (c : Float), p.coefficients[n]? = some c → c.isFinite = false →
    ∃ x : Float, q.coefficients[n]? = some x ∧ x.isFinite = false

namespace Coefficients

section

variable {c : Float} (h : c.isFinite = false) (n : Nat)

include h

/-- A coefficient that is not finite is read back as one before a power, and as zero without one. -/
lemma rereadAt_of_not_isFinite : rereadAt n c = if n = 0 then 0.0 else 1.0 := by
  have infinite : ¬ c.isFinite = true := by simp [h]
  have nonzero : ¬ (c == 0.0) = true := by simp [beq_zero_of_not_isFinite infinite]
  rw [rereadAt, if_neg nonzero, rereadTerm?, if_neg infinite]
  split <;> rfl

/-- What is read back is finite. -/
lemma isFinite_rereadAt : (rereadAt n c).isFinite = true := by
  rw [rereadAt_of_not_isFinite h]
  split <;> rfl

/-- The exponent of a coefficient that is not finite is not above the degree. -/
lemma le_degree_of_not_isFinite {cs : List Float} (hc : cs[n]? = some c) : n ≤ degree cs := by
  have nonzero := beq_zero_of_not_isFinite (x := c) (by simp [h])
  exact le_degree_iff.2 (.inr ⟨n, ⟨c, hc, nonzero⟩, Nat.le_refl n⟩)

end

end Coefficients

namespace Polynomial

variable {expression : String} {policy : MergePolicy} {p q : Polynomial}

/-- The derivative of what was read has an exponent that can be read as its degree. -/
lemma degree_derivative_le (h : parse expression policy = .ok p) :
    p.derivative.degree ≤ maxExponent := by
  have inside := Coefficients.degree_lt_length p.derivative.coefficients_ne_nil
  rw [coefficients_derivative, Coefficients.length_derivative] at inside
  have := length_le_of_parse h
  rw [degree, coefficients_derivative]
  omega

/-- What is read back of a polynomial at each exponent up to its degree. -/
lemma getElem?_reread (h : q.coefficients =
    (p.coefficients.take (p.degree + 1)).mapIdx Coefficients.rereadAt) {n : Nat} {c : Float}
    (hn : n ≤ p.degree) (hc : p.coefficients[n]? = some c) :
    q.coefficients[n]? = some (Coefficients.rereadAt n c) := by
  rw [h, List.getElem?_mapIdx, List.getElem?_take_of_lt (Nat.lt_succ_of_le hn), hc]
  rfl

/-- Nothing that is not finite is kept. -/
lemma keepsNonFinite_iff (h : q.coefficients =
    (p.coefficients.take (p.degree + 1)).mapIdx Coefficients.rereadAt) :
    KeepsNonFinite p q ↔ ∀ c ∈ p.coefficients, c.isFinite = true := by
  constructor
  · intro keeps c mem
    by_contra infinite
    have infinite := Bool.eq_false_of_not_eq_true infinite
    obtain ⟨n, hc⟩ := List.getElem?_of_mem mem
    obtain ⟨x, hx, lost⟩ := keeps n c hc infinite
    have read := getElem?_reread h (Coefficients.le_degree_of_not_isFinite infinite n hc) hc
    obtain rfl := Option.some.inj (hx.symm.trans read)
    exact Bool.false_ne_true (lost.symm.trans (Coefficients.isFinite_rereadAt infinite n))
  · intro finite n c hc infinite
    have := finite c (List.mem_of_getElem? hc)
    exact absurd (infinite.symm.trans this) Bool.false_ne_true

/-- The derivative of what an expression denotes, read back from its own text. The text can be read,
and gives a coefficient for each exponent up to the degree of the derivative: zero for zero, the double
of the two decimal places for a finite coefficient, and for an infinite one or NaN one before a power
and zero for the constant. So where a coefficient of the derivative is not finite, the one read back is
finite, and none is lost only if there is none. -/
theorem parse_source_derivative (h : parse expression policy = .ok p) :
    ∃ q, parse p.derivative.source .overwrite = .ok q ∧
      q.coefficients.length = p.derivative.degree + 1 ∧
      (∀ n ≤ p.derivative.degree, ∃ c x, p.derivative.coefficients[n]? = some c ∧
        q.coefficients[n]? = some x ∧
        if c == 0.0 then x = 0.0
        else if c.isFinite then readFraction (fixed c) = .ok x
        else x = if n = 0 then 0.0 else 1.0) ∧
      (KeepsNonFinite p.derivative q ↔ ∀ c ∈ p.derivative.coefficients, c.isFinite = true) := by
  have inside := Coefficients.degree_lt_length p.derivative.coefficients_ne_nil
  -- The text of the derivative is canonical, whatever its coefficients are.
  obtain ⟨q, read, eq⟩ :=
    exists_parse_canonical p.derivative.coefficients_ne_nil (degree_derivative_le h)
  refine ⟨q, ?_, ?_, fun n hn => ?_, keepsNonFinite_iff eq⟩
  · rwa [derivative, source_ofCoefficients]
  · rw [eq, List.length_mapIdx, List.length_take]
    exact Nat.min_eq_left inside
  · have hc : p.derivative.coefficients[n]? = some _ :=
      List.getElem?_eq_getElem (Nat.lt_of_le_of_lt hn inside)
    refine ⟨_, _, hc, getElem?_reread eq hn hc, ?_⟩
    split
    · next zero => rw [Coefficients.rereadAt, if_pos zero]
    · next nonzero =>
      split
      · next finite =>
        rw [readFraction_fixed finite, Coefficients.rereadAt, if_neg nonzero, Coefficients.rereadTerm?,
          if_pos finite]
        rfl
      · next infinite =>
        exact Coefficients.rereadAt_of_not_isFinite (Bool.eq_false_of_not_eq_true infinite) n

/-- An infinite coefficient of a power is read back as one, and NaN is not read at all. -/
theorem parse_source_derivative_infinite :
    ∃ p, parse "1/0x^2+0/0x" .overwrite = .ok p ∧ p.derivative.source = "infx^1NaN" ∧
      ∃ q, parse p.derivative.source .overwrite = .ok q ∧ q.coefficients.length = 2 ∧
        q.coefficients[0]? = some 0.0 ∧ q.coefficients[1]? = some 1.0 ∧
        ¬ KeepsNonFinite p.derivative q := by
  let p : Polynomial := ⟨[0.0, 0.0 / 0.0, 1.0 / 0.0], "1/0x^2+0/0x", by simp⟩
  have terms : readTerms "1/0x^2+0/0x".toList = .ok [⟨1.0 / 0.0, 2⟩, ⟨0.0 / 0.0, 1⟩] := by
    decide +kernel
  have read : parse "1/0x^2+0/0x" .overwrite = .ok p := parse_eq_ok_iff.2 ⟨_, terms, rfl⟩
  have coefficients : p.derivative.coefficients = [0.0 / 0.0, 1.0 / 0.0, 0.0] := by decide +kernel
  have degree : p.derivative.degree = 1 := by decide +kernel
  obtain ⟨q, reparsed, length, place, keeps⟩ := parse_source_derivative read
  rw [degree] at length place
  obtain ⟨c, x, hc, hx, constant⟩ := place 0 (by decide)
  obtain ⟨d, y, hd, hy, power⟩ := place 1 (by decide)
  rw [coefficients] at hc hd
  obtain rfl := Option.some.inj hc
  obtain rfl := Option.some.inj hd
  refine ⟨p, read, by decide +kernel, q, reparsed, length, ?_, ?_, fun kept => ?_⟩
  · exact hx.trans (congrArg some constant)
  · exact hy.trans (congrArg some power)
  · have finite := keeps.1 kept (0.0 / 0.0) (coefficients ▸ List.mem_cons_self ..)
    exact absurd finite (by decide)

/-- A division by zero is in the derivative, and not in what is read back from its text. -/
theorem not_keepsNonFinite_infinite :
    ∃ p, parse "1/0x^2" .overwrite = .ok p ∧ p.derivative.coefficients[1]? = some (1.0 / 0.0) ∧
      p.derivative.source = "infx^1" ∧
      ¬ ∃ q, parse p.derivative.source .overwrite = .ok q ∧ KeepsNonFinite p.derivative q := by
  let p : Polynomial := ⟨[0.0, 0.0, 1.0 / 0.0], "1/0x^2", by simp⟩
  have terms : readTerms "1/0x^2".toList = .ok [⟨1.0 / 0.0, 2⟩] := by decide +kernel
  have infinite : p.derivative.coefficients[1]? = some (1.0 / 0.0) := by decide +kernel
  have source : p.derivative.source = "infx^1" := by decide +kernel
  refine ⟨p, parse_eq_ok_iff.2 ⟨_, terms, rfl⟩, infinite, source, ?_⟩
  rintro ⟨q, reparsed, keeps⟩
  have one : readTerms p.derivative.source.toList = .ok [⟨1.0, 1⟩] := by decide +kernel
  obtain ⟨terms', read, rfl⟩ := parse_eq_ok_iff.1 reparsed
  obtain rfl := Except.ok.inj (one.symm.trans read)
  obtain ⟨x, hx, lost⟩ := keeps 1 _ infinite (by decide)
  have dense : (MergedTerms.ofTerms .overwrite [⟨1.0, 1⟩]).dense[1]? = some 1.0 := by decide +kernel
  obtain rfl := Option.some.inj (hx.symm.trans dense)
  exact absurd lost (by decide)

end Polynomial

end PolySurvey
