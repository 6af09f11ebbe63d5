import PolySurvey.Proofs.Term.Parts

/-!
# Expressions put together

An expression may be cut before any sign that does not belong to an exponent: its pieces are the
pieces of the first part and then those of the second. No term reaches over the cut, because every
part of a term stops before a sign, and no term of the first part changes. So the terms, and the
first error, of two expressions put together are those of the first and then those of the second.
-/

namespace PolySurvey

variable {as bs : List Char}

/-- What follows a text that does not end with a caret does not end with one either. -/
lemma getLast?_ne_of_append {c : Char} (text : List Char) {rest : List Char}
    (h : (text ++ rest).getLast? ≠ some c) : rest.getLast? ≠ some c := by
  intro hr
  exact h (by rw [List.getLast?_append, hr, Option.some_or])

namespace WrittenTerm

/-- The power that a text starts with does not reach over a sign. -/
lemma power?_append (hb : StartsWithSign bs) (ha : as ≠ []) (hc : as.getLast? ≠ some '^') :
    power? (as ++ bs) = (power? as).map fun (t, rest) => (t, rest ++ bs) := by
  have stop := Part.coefficient_stopsBefore hb ha
  have lossless := Part.lossless_coefficient as
  unfold Part.StopsBefore at stop
  cases hrest : (Part.coefficient as).2 with
  | nil =>
    obtain ⟨c, tail, rfl, sign⟩ := hb.exists_cons
    rcases sign with rfl | rfl <;> simp [power?, stop, hrest]
  | cons c tail =>
    by_cases hx : c = 'x'
    · subst hx
      have caret : tail ≠ ['^'] := by
        rintro rfl
        rw [← lossless, hrest] at hc
        exact hc (by simp)
      simp [power?, stop, hrest, Part.exponent_stopsBefore hb caret]
    · simp [power?, stop, hrest, hx]

/-- A constant is read from the first of two texts as if the second were not there. -/
lemma constant?_append (hb : StartsWithSign bs) (ha : as ≠ []) :
    constant? (as ++ bs) = (constant? as).map fun (t, rest) => (t, rest ++ bs) := by
  have lead := Part.lead_stopsBefore hb ha
  have digits := Part.digits_stopsBefore hb (Part.lead as).2
  have number := Part.number_stopsBefore hb ha
  unfold Part.StopsBefore at lead digits number
  simp only [constant?, lead, digits, number]
  split <;> rfl

/-- So is a term, unless the first text ends with a caret. -/
lemma cut?_append (hb : StartsWithSign bs) (ha : as ≠ []) (hc : as.getLast? ≠ some '^') :
    cut? (as ++ bs) = (cut? as).map fun (t, rest) => (t, rest ++ bs) := by
  rw [cut?, power?_append hb ha hc, constant?_append hb ha, cut?, Option.map_or]

end WrittenTerm

/-- The pieces of two expressions put together at a sign. -/
lemma Lexeme.scan_append (hb : StartsWithSign bs) (hc : as.getLast? ≠ some '^') :
    scan (as ++ bs) = scan as ++ scan bs := by
  -- The induction follows the scan of the first text: each cut that it makes is also made in the long
  -- text, as the second text begins with a sign.
  fun_induction scan as with
  | case1 => simp
  | case2 c cs t rest h _ ih =>
    have cut := WrittenTerm.cut?_append hb (List.cons_ne_nil c cs) hc
    rw [h] at cut
    have text := (WrittenTerm.text_append_of_cut? h).1
    rw [← text] at hc
    rw [List.cons_append] at cut ⊢
    rw [scan]
    split
    · next t' rest' h' =>
      rw [cut] at h'
      obtain ⟨rfl, rfl⟩ := Prod.mk.inj (Option.some.inj h')
      rw [ih (getLast?_ne_of_append _ hc), List.cons_append]
    · next h' => simp [cut] at h'
  | case3 c cs h ih =>
    have cut := WrittenTerm.cut?_append hb (List.cons_ne_nil c cs) hc
    rw [h] at cut
    rw [List.cons_append] at cut ⊢
    rw [scan]
    split
    · next t' rest' h' => simp [cut] at h'
    · rw [ih (getLast?_ne_of_append [c] hc), List.cons_append]

/-- The written terms of both texts are those of the first and those of the second. -/
lemma writtenTerms_append (hb : StartsWithSign bs) (hc : as.getLast? ≠ some '^') :
    writtenTerms (as ++ bs) = writtenTerms as ++ writtenTerms bs := by
  rw [writtenTerms, Lexeme.scan_append hb hc, List.filterMap_append, writtenTerms, writtenTerms]

/-- Reading is compositional at a sign: the terms of two expressions put together are the terms of
the first and then those of the second, and the error is that of the first, or else that of the
second, if there is one. -/
theorem readTerms_append (hb : StartsWithSign bs) (hc : as.getLast? ≠ some '^') :
    readTerms (as ++ bs) = do
      let first ← readTerms as
      let second ← readTerms bs
      return first ++ second := by
  rw [readTerms, writtenTerms_append hb hc, List.mapM_append]
  rfl

/-- A slash without a divisor at the end of the first text, and a minus sign at the front of the
second. -/
theorem readTerms_append_minus :
    StartsWithSign ['-', 'x', '^', '2'] ∧ ['3', 'x', ' ', '1', '/'].getLast? ≠ some '^' ∧
      readTerms (['3', 'x', ' ', '1', '/'] ++ ['-', 'x', '^', '2']) = do
        let first ← readTerms ['3', 'x', ' ', '1', '/']
        let second ← readTerms ['-', 'x', '^', '2']
        return first ++ second := by
  have sign : StartsWithSign ['-', 'x', '^', '2'] := Or.inr rfl
  have caret : ['3', 'x', ' ', '1', '/'].getLast? ≠ some '^' := by decide
  exact ⟨sign, caret, readTerms_append sign caret⟩

end PolySurvey
