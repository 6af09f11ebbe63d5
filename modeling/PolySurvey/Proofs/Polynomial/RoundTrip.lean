import PolySurvey.Proofs.Polynomial.Rereading

/-!
# Finite coefficients and their canonical text

The canonical text of finite coefficients loses nothing but what two decimal places cannot hold: every
coefficient is read back from its own decimal, and the zeros at the top are not written.
-/

namespace PolySurvey

open Number

namespace Coefficients

/-- The coefficient that is read back at an exponent: the one read from two decimal places, or zero
where the exponent does not occur. -/
def reread (c : Float) : Float := if c == 0.0 then 0.0 else fixedValue c

/-- Finite coefficients are read back in the same way at every exponent. -/
lemma mapIdx_rereadAt {cs : List Float} (finite : ∀ c ∈ cs, c.isFinite = true) :
    cs.mapIdx rereadAt = cs.map reread := by
  apply List.ext_getElem
  · rw [List.length_mapIdx, List.length_map]
  · intro n hn hn'
    rw [List.getElem_mapIdx, List.getElem_map, rereadAt, reread, rereadTerm?,
      if_pos (finite _ (List.getElem_mem _))]
    rfl

/-- A coefficient whose two decimal places denote it is read back unchanged. -/
lemma reread_beq {c : Float} (finite : c.isFinite = true)
    (unchanged : (c == 0.0) = false → readFraction (fixed c) = .ok c) : (reread c == c) = true := by
  have number := isNumber_of_isFinite finite
  unfold reread
  by_cases zero : (c == 0.0) = true
  · rw [if_pos zero, beq_iff_rank_eq isNumber_zero number]
    exact ((beq_zero_iff_rank_eq_zero number).1 zero).symm
  · have read := unchanged (by simpa using zero)
    rw [readFraction_fixed finite, Except.ok.injEq] at read
    rw [if_neg zero, read, beq_iff_rank_eq number number]

/-- A vector whose entries are equal to what becomes of them is equal to what becomes of it. -/
lemma map_beq_self {f : Float → Float} {cs : List Float} (h : ∀ c ∈ cs, (f c == c) = true) :
    (cs.map f == cs) = true := by
  induction cs with
  | nil => rfl
  | cons c cs ih =>
    obtain ⟨head, tail⟩ := List.forall_mem_cons.1 h
    rw [List.map_cons, List.cons_beq_cons, head, ih tail]
    rfl

end Coefficients

namespace Polynomial

open Coefficients

/-- The canonical text of finite coefficients is read as the coefficients up to the degree, each of
them read back. -/
lemma parse_canonical {cs : List Float} (finite : ∀ c ∈ cs, c.isFinite = true) (nonempty : cs ≠ [])
    (bound : Coefficients.degree cs ≤ maxExponent) :
    ∃ q, parse (String.ofList (Coefficients.canonical cs)) .overwrite = .ok q ∧
      q.coefficients = (cs.take (Coefficients.degree cs + 1)).map reread := by
  obtain ⟨q, read, eq⟩ := exists_parse_canonical nonempty bound
  exact ⟨q, read, eq.trans (mapIdx_rereadAt fun c hc => finite c (List.mem_of_mem_take hc))⟩

/-- A polynomial made from finite coefficients has finite coefficients. -/
lemma isFinite_ofCoefficients {cs : List Float} (finite : ∀ c ∈ cs, c.isFinite = true) :
    ∀ c ∈ (ofCoefficients cs).coefficients, c.isFinite = true := by
  by_cases h : cs = []
  · subst h
    intro c hc
    obtain rfl := List.mem_singleton.1 hc
    rfl
  · rw [ofCoefficients_coefficients h]
    exact finite

/-- Canonical text decodes back. The polynomial of finite coefficients is read back from its
canonical text when its degree is an exponent that can be read: each coefficient up to the degree
becomes the double that is read from its two decimal places, or zero where it is zero. It is the
polynomial without its zeros at the top if two decimal places are enough for every coefficient. -/
theorem parse_canonical_ofCoefficients (cs : List Float) (finite : ∀ c ∈ cs, c.isFinite = true)
    (bound : (ofCoefficients cs).degree ≤ maxExponent) :
    let p := ofCoefficients cs
    ∃ q, parse p.canonical .overwrite = .ok q ∧
      q.coefficients.length = p.degree + 1 ∧
      (∀ n ≤ p.degree, ∃ c x, p.coefficients[n]? = some c ∧ q.coefficients[n]? = some x ∧
        if c == 0.0 then x = 0.0 else readFraction (fixed c) = .ok x) ∧
      ((∀ c ∈ p.coefficients, (c == 0.0) = false → readFraction (fixed c) = .ok c) →
        (q.coefficients == p.coefficients.take (p.degree + 1)) = true) := by
  intro p
  have finite := isFinite_ofCoefficients finite
  have inside := degree_lt_length p.coefficients_ne_nil
  -- What is read back is known coefficient by coefficient, and each statement is about one of them.
  obtain ⟨q, read, eq⟩ := parse_canonical finite p.coefficients_ne_nil bound
  refine ⟨q, read, ?_, ?_, ?_⟩
  · rw [eq, List.length_map, List.length_take]
    exact Nat.min_eq_left inside
  · intro n hn
    have place : n < p.coefficients.length := Nat.lt_of_le_of_lt hn inside
    have hc : p.coefficients[n]? = some p.coefficients[n] := List.getElem?_eq_getElem place
    refine ⟨p.coefficients[n], reread p.coefficients[n], hc, ?_, ?_⟩
    · have taken := (List.getElem?_take_of_lt (Nat.lt_succ_of_le hn)).trans hc
      rw [eq, List.getElem?_map]
      exact congrArg (Option.map reread) taken
    · unfold reread
      split
      · rfl
      · exact readFraction_fixed (finite _ (List.getElem_mem _))
  · intro unchanged
    rw [eq]
    apply map_beq_self
    intro c hc
    have mem := List.mem_of_mem_take hc
    exact reread_beq (finite c mem) (unchanged c mem)

/-- Coefficients in halves, with a gap, a sign and a zero at the top. -/
theorem parse_canonical_halves :
    (∀ c ∈ [1.5, 0.0, -2.0, 0.0], Float.isFinite c = true) ∧
      (ofCoefficients [1.5, 0.0, -2.0, 0.0]).degree ≤ maxExponent ∧
      ∃ q, parse (ofCoefficients [1.5, 0.0, -2.0, 0.0]).canonical .overwrite = .ok q ∧
        (q.coefficients == [1.5, 0.0, -2.0]) = true := by
  have finite : ∀ c ∈ [1.5, 0.0, -2.0, 0.0], Float.isFinite c = true := by decide +kernel
  have degree : (ofCoefficients [1.5, 0.0, -2.0, 0.0]).degree = 2 := by decide +kernel
  have bound : (ofCoefficients [1.5, 0.0, -2.0, 0.0]).degree ≤ maxExponent := by
    rw [degree]
    decide
  have unchanged : ∀ c ∈ (ofCoefficients [1.5, 0.0, -2.0, 0.0]).coefficients,
      (c == 0.0) = false → readFraction (fixed c) = .ok c := by decide +kernel
  obtain ⟨q, read, _, _, same⟩ := parse_canonical_ofCoefficients [1.5, 0.0, -2.0, 0.0] finite bound
  refine ⟨finite, bound, q, read, ?_⟩
  have same := same unchanged
  rw [degree] at same
  exact same

end Polynomial

end PolySurvey
