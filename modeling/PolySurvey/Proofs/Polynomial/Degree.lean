import Mathlib.Data.List.Induction
import Mathlib.Data.List.Nodup
import Mathlib.Tactic.Lemma
import PolySurvey.Polynomial.Canonical

/-!
# The terms of a coefficient vector

The degree and the terms of the canonical text look at the same places of a vector, those whose
coefficient is not zero: the degree is the last of them, and the terms list each of them once.
-/

namespace PolySurvey.Coefficients

/-- The coefficient at an exponent is not zero. -/
def Occurs (cs : List Float) (exponent : Nat) : Prop :=
  ∃ c, cs[exponent]? = some c ∧ (c == 0.0) = false

/-- An exponent that occurs has a place. -/
lemma Occurs.lt_length {cs : List Float} {exponent : Nat} (h : Occurs cs exponent) :
    exponent < cs.length := by
  obtain ⟨c, hc, _⟩ := h
  exact (List.getElem?_eq_some_iff.1 hc).1

/-- One more coefficient at the top occurs if it is not zero. -/
lemma occurs_append {cs : List Float} {c : Float} {exponent : Nat} :
    Occurs (cs ++ [c]) exponent ↔
      Occurs cs exponent ∨ exponent = cs.length ∧ (c == 0.0) = false := by
  unfold Occurs
  rcases Nat.lt_trichotomy exponent cs.length with inside | rfl | outside
  · rw [List.getElem?_append_left inside]
    simp [Nat.ne_of_lt inside]
  · simp
  · have : cs.length ≤ exponent := Nat.le_of_lt outside
    have none : (cs ++ [c])[exponent]? = none := by
      rw [List.getElem?_eq_none_iff, List.length_append]
      exact outside
    simp [none, this, Nat.ne_of_gt outside]

/-! ## The degree -/

/-- One more coefficient at the top is significant, and all below it, if it is not zero. -/
lemma significant_append (cs : List Float) (c : Float) :
    significant (cs ++ [c]) = if c == 0.0 then significant cs else cs ++ [c] := by
  have zero : (0 : Float) = 0.0 := rfl
  unfold significant
  rw [zero, List.reverse_append, List.reverse_singleton, List.singleton_append,
    List.dropWhile_cons]
  split
  · rfl
  · rw [List.reverse_cons, List.reverse_reverse]

/-- The vector without the zeros at the top reaches to the last exponent that occurs. -/
lemma lt_length_significant {cs : List Float} {n : Nat} :
    n < (significant cs).length ↔ ∃ exponent, Occurs cs exponent ∧ n ≤ exponent := by
  induction cs using List.reverseRecOn with
  | nil => simp [significant, Occurs]
  | append_singleton cs c ih =>
    rw [significant_append]
    by_cases hc : (c == 0.0) = true
    · rw [if_pos hc, ih]
      simp only [occurs_append, hc, Bool.true_eq_false, and_false, or_false]
    · rw [if_neg hc, List.length_append, List.length_singleton]
      constructor
      · intro h
        exact ⟨cs.length, occurs_append.2 (.inr ⟨rfl, by simpa using hc⟩), Nat.le_of_lt_succ h⟩
      · rintro ⟨exponent, occurs, le⟩
        have := occurs.lt_length
        rw [List.length_append, List.length_singleton] at this
        exact Nat.lt_of_le_of_lt le this

/-- The degree is the largest exponent that occurs, and zero if none does. -/
lemma le_degree_iff {cs : List Float} {n : Nat} :
    n ≤ degree cs ↔ n = 0 ∨ ∃ exponent, Occurs cs exponent ∧ n ≤ exponent := by
  rw [← lt_length_significant, degree]
  omega

/-- The degree is the exponent of one of the places. -/
lemma degree_lt_length {cs : List Float} (h : cs ≠ []) : degree cs < cs.length := by
  have pos := List.length_pos_iff.2 h
  rcases le_degree_iff.1 (Nat.le_refl (degree cs)) with zero | ⟨exponent, occurs, le⟩
  · rw [zero]
    exact pos
  · exact Nat.lt_of_le_of_lt le occurs.lt_length

/-! ## The terms -/

/-- The terms are the coefficients that occur, each with its exponent. -/
lemma mem_descendingTerms {cs : List Float} {term : Float × Nat} :
    term ∈ descendingTerms cs ↔ cs[term.2]? = some term.1 ∧ (term.1 == 0.0) = false := by
  rw [descendingTerms, List.mem_reverse, List.mem_filter, List.mem_zipIdx_iff_getElem?]
  simp

/-- No exponent is listed twice. -/
lemma nodup_exponents (cs : List Float) : ((descendingTerms cs).map Prod.snd).Nodup := by
  rw [descendingTerms, List.map_reverse, List.nodup_reverse]
  have sublist := (List.filter_sublist (p := fun term => !(term.1 == 0.0)) (l := cs.zipIdx)).map
    Prod.snd
  rw [List.zipIdx_map_snd] at sublist
  exact sublist.nodup List.nodup_range'

end PolySurvey.Coefficients
