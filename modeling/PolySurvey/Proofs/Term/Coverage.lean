import Mathlib.Data.List.TakeWhile
import Mathlib.Logic.ExistsUnique
import PolySurvey.Proofs.Term.Literal

/-!
# What the terms of an expression cover

The written terms of an expression are found at places in it. They are not empty, do not overlap and
come from left to right, and a character outside all of them is neither a digit nor `x`: where one of
these stands a term can start, so it is never skipped. Each `x` makes one power, because no other
part of a term takes an `x`.
-/

namespace PolySurvey

open Text

/-- A written term and the place in the expression where it starts. -/
structure Occurrence where
  start : Nat
  term : WrittenTerm

namespace Occurrence

/-- The place after the last character of the term. -/
def stop (o : Occurrence) : Nat := o.start + o.term.text.length

/-- A place inside the term. -/
def Covers (o : Occurrence) (i : Nat) : Prop := o.start ≤ i ∧ i < o.stop

end Occurrence

/-- A character that only a term can account for. -/
def Numeric (c : Char) : Prop := c.isDigit = true ∨ c = 'x'

/-- The terms among pieces the first of which starts at a place. -/
def Lexeme.occurrences (start : Nat) : List Lexeme → List Occurrence
  | [] => []
  | .skipped _ :: pieces => occurrences (start + 1) pieces
  | .term t :: pieces => ⟨start, t⟩ :: occurrences (start + t.text.length) pieces

/-- The written terms of an expression at their places. -/
def occurrences (cs : List Char) : List Occurrence := Lexeme.occurrences 0 (Lexeme.scan cs)

/-- Whether a term is a power. -/
def WrittenTerm.isPower : WrittenTerm → Bool
  | .power _ _ => true
  | .constant _ => false

/-! ## Places -/

namespace Lexeme

/-- The terms at their places are the terms. -/
lemma map_term_occurrences (start : Nat) (pieces : List Lexeme) :
    (occurrences start pieces).map Occurrence.term = pieces.filterMap term? := by
  induction pieces generalizing start with
  | nil => rfl
  | cons piece pieces ih =>
    cases piece with
    | skipped c => exact ih _
    | term t => exact congrArg (t :: ·) (ih _)

/-- No term is found before the place where the scan starts. -/
lemma start_le_of_mem_occurrences {start : Nat} {pieces : List Lexeme} {o : Occurrence}
    (h : o ∈ occurrences start pieces) : start ≤ o.start := by
  induction pieces generalizing start with
  | nil => cases h
  | cons piece pieces ih =>
    cases piece with
    | skipped c => exact Nat.le_of_succ_le (ih h)
    | term t =>
      rcases List.mem_cons.1 h with rfl | h
      · exact Nat.le_refl _
      · exact Nat.le_trans (Nat.le_add_right ..) (ih h)

/-- Each term ends before the next one starts, or there. -/
lemma occurrences_pairwise (start : Nat) (pieces : List Lexeme) :
    (occurrences start pieces).Pairwise fun o p => o.stop ≤ p.start := by
  induction pieces generalizing start with
  | nil => exact .nil
  | cons piece pieces ih =>
    cases piece with
    | skipped c => exact ih _
    | term t => exact .cons (fun p hp => start_le_of_mem_occurrences hp) (ih _)

/-- An occurrence stands where it says. -/
lemma exists_append_of_mem_occurrences {start : Nat} {pieces : List Lexeme} {o : Occurrence}
    (h : o ∈ occurrences start pieces) :
    .term o.term ∈ pieces ∧ ∃ before after,
      pieces.flatMap text = before ++ (o.term.text ++ after) ∧ start + before.length = o.start := by
  induction pieces generalizing start with
  | nil => cases h
  | cons piece pieces ih =>
    have later {start : Nat} (h : o ∈ occurrences (start + piece.text.length) pieces) :
        .term o.term ∈ piece :: pieces ∧ ∃ before after,
          (piece :: pieces).flatMap text = before ++ (o.term.text ++ after) ∧
            start + before.length = o.start := by
      obtain ⟨mem, before, after, eq, place⟩ := ih h
      refine ⟨List.mem_cons_of_mem _ mem, piece.text ++ before, after, ?_, ?_⟩
      · rw [List.flatMap_cons, eq, List.append_assoc]
      · rw [List.length_append, ← Nat.add_assoc, place]
    cases piece with
    | skipped c => exact later h
    | term t =>
      rcases List.mem_cons.1 h with rfl | h
      · exact ⟨List.mem_cons_self .., [], pieces.flatMap text, rfl, rfl⟩
      · exact later h

/-- Where only numeric characters matter, pieces that skip none of them cover all of them. -/
lemma exists_covers_of_getElem? (start : Nat) {i : Nat} {pieces : List Lexeme} {c : Char}
    (skipped : ∀ d, .skipped d ∈ pieces → ¬ Numeric d) (hc : Numeric c)
    (h : (pieces.flatMap text)[i]? = some c) :
    ∃ o ∈ occurrences start pieces, o.Covers (start + i) := by
  induction pieces generalizing start i with
  | nil => cases h
  | cons piece pieces ih =>
    have skipped' := fun d hd => skipped d (List.mem_cons_of_mem _ hd)
    rw [List.flatMap_cons, List.getElem?_append] at h
    cases piece with
    | skipped d =>
      cases i with
      | zero =>
        obtain rfl : d = c := Option.some.inj h
        exact absurd hc (skipped d (List.mem_cons_self ..))
      | succ i =>
        obtain ⟨o, mem, covers⟩ := ih (start + 1) skipped' h
        exact ⟨o, mem, by rwa [Nat.add_right_comm, Nat.add_assoc] at covers⟩
    | term t =>
      -- The place is in this term, or in a later piece and counted from there.
      by_cases inside : i < t.text.length
      · exact ⟨⟨start, t⟩, List.mem_cons_self .., Nat.le_add_right .., Nat.add_lt_add_left inside start⟩
      · rw [text, if_neg inside] at h
        obtain ⟨o, mem, covers⟩ := ih (start + t.text.length) skipped' h
        refine ⟨o, List.mem_cons_of_mem _ mem, ?_⟩
        rwa [Nat.add_assoc, Nat.add_sub_cancel' (Nat.le_of_not_lt inside)] at covers

end Lexeme

/-- Of terms from left to right at most one covers a place. -/
lemma eq_of_covers {os : List Occurrence} {o p : Occurrence} {i : Nat}
    (apart : os.Pairwise fun o p => o.stop ≤ p.start) (ho : o ∈ os) (hp : p ∈ os)
    (io : o.Covers i) (ip : p.Covers i) : o = p := by
  induction apart with
  | nil => cases ho
  | cons first _ ih =>
    rcases List.mem_cons.1 ho with rfl | later
    · rcases List.mem_cons.1 hp with rfl | later
      · rfl
      · exact absurd (Nat.lt_of_lt_of_le io.2 (Nat.le_trans (first p later) ip.1)) (Nat.lt_irrefl i)
    · rcases List.mem_cons.1 hp with rfl | later'
      · exact absurd (Nat.lt_of_lt_of_le ip.2 (Nat.le_trans (first o later) io.1)) (Nat.lt_irrefl i)
      · exact ih later later'

/-! ## What is skipped -/

namespace Part

/-- Before a digit or an `x` nothing is taken for a lead. -/
lemma lead_takes_of_numeric {c : Char} (h : Numeric c) (cs : List Char) :
    lead.Takes [] (c :: cs) := by
  rcases h with digit | rfl
  · exact lead_takes_sign .absent (.inl digit) cs
  · rfl

/-- Before an `x` there is no coefficient. -/
lemma coefficient_x (cs : List Char) : coefficient ('x' :: cs) = ([], 'x' :: cs) :=
  coefficient_takes_lead (lead_takes_of_numeric (.inr rfl) cs) (EndsLiteral.of_x cs)

end Part

/-- A term can start with any digit and with `x`. -/
lemma WrittenTerm.not_numeric_of_cut?_eq_none {c : Char} {cs : List Char}
    (h : cut? (c :: cs) = none) : ¬ Numeric c := by
  obtain ⟨noPower, noConstant⟩ := Option.or_eq_none_iff.1 h
  rintro (digit | rfl)
  · have lead := Part.lead_takes_of_numeric (.inl digit) cs
    rw [Part.Takes, List.nil_append] at lead
    simp [constant?, lead, Part.digits, Part.run, digit] at noConstant
  · simp [power?, Part.coefficient_x] at noPower

/-- No digit is skipped, and no `x`. -/
lemma Lexeme.not_numeric_of_skipped_mem_scan {cs : List Char} {c : Char}
    (h : .skipped c ∈ scan cs) : ¬ Numeric c := by
  fun_induction scan cs with
  | case1 => cases h
  | case2 d cs t rest cut _ ih =>
    rcases List.mem_cons.1 h with eq | h
    · cases eq
    · exact ih h
  | case3 d cs cut ih =>
    rcases List.mem_cons.1 h with eq | h
    · cases eq
      exact WrittenTerm.not_numeric_of_cut?_eq_none cut
    · exact ih h

/-! ## Where an `x` goes -/

namespace Part

/-- A character that a part never takes. -/
def Avoids (p : Part) (c : Char) : Prop := ∀ cs, c ∉ (p cs).1

variable {c : Char}

/-- Two parts avoid a character if both do. -/
lemma Avoids.andThen {p q : Part} (hp : p.Avoids c) (hq : q.Avoids c) :
    (p.andThen q).Avoids c := fun cs hc =>
  (List.mem_append.1 hc).elim (hp cs) (hq _)

/-- A run avoids what is not of its kind. -/
lemma run_avoids {kind : Char → Bool} (h : kind c = false) : (run kind).Avoids c := by
  intro cs hc
  have taken := List.mem_takeWhile_imp hc
  rw [h] at taken
  cases taken

/-- Digits avoid what is no digit. -/
lemma digits_avoids (h : c.isDigit = false) : digits.Avoids c := run_avoids h

/-- A sign avoids what is no sign. -/
lemma sign_avoids (plus : c ≠ '+') (minus : c ≠ '-') : sign.Avoids c := by
  intro cs hc
  unfold sign at hc
  split at hc
  · exact plus (List.mem_singleton.1 hc)
  · exact minus (List.mem_singleton.1 hc)
  · cases hc

/-- A point avoids what is no point. -/
lemma point_avoids (h : c ≠ '.') : point.Avoids c := by
  intro cs hc
  unfold point at hc
  split at hc
  · exact h (List.mem_singleton.1 hc)
  · cases hc

/-- Digits after a mark avoid what is neither. -/
lemma marked_avoids {mark : Char} (h : c ≠ mark) (digit : c.isDigit = false) :
    (marked mark).Avoids c := by
  intro cs hc
  cases cs with
  | nil => cases hc
  | cons d cs =>
    rw [marked] at hc
    split at hc
    · next taken =>
      rcases List.mem_cons.1 hc with rfl | hc
      · exact h taken.1
      · exact digits_avoids digit cs hc
    · cases hc

/-- Divisors avoid what is neither slash, point nor digit. -/
lemma divisors_avoids (slash : c ≠ '/') (point : c ≠ '.') (digit : c.isDigit = false) :
    Avoids divisors c := by
  intro cs
  have part := (marked_avoids slash digit).andThen (marked_avoids point digit)
  fun_induction divisors cs with
  | case1 => exact List.not_mem_nil
  | case2 cs _ first _ rest ih => exact fun hc => (List.mem_append.1 hc).elim (part cs) ih

/-- No `x` is taken with the lead. -/
lemma lead_avoids_x : lead.Avoids 'x' :=
  (sign_avoids (by decide) (by decide)).andThen (run_avoids (by decide))

/-- No `x` is taken with the divisors. -/
lemma divisors_avoids_x : Avoids divisors 'x' :=
  divisors_avoids (by decide) (by decide) (by decide)

/-- No `x` is taken with the coefficient. -/
lemma coefficient_avoids_x : coefficient.Avoids 'x' :=
  have digits := digits_avoids (by decide)
  lead_avoids_x.andThen (digits.andThen ((point_avoids (by decide)).andThen
    (digits.andThen divisors_avoids_x)))

/-- No `x` is taken with a number. -/
lemma number_avoids_x : number.Avoids 'x' :=
  lead_avoids_x.andThen ((digits_avoids (by decide)).andThen
    ((marked_avoids (by decide) (by decide)).andThen divisors_avoids_x))

/-- No `x` is taken with an exponent. -/
lemma not_mem_exponentText (cs : List Char) : 'x' ∉ WrittenTerm.exponentText (exponent cs).1 := by
  have digits := (sign_avoids (c := 'x') (by decide) (by decide)).andThen (digits_avoids (by decide))
  unfold exponent
  split
  · split
    · exact List.not_mem_nil
    · next cs _ =>
      exact fun hc => (List.mem_cons.1 hc).elim (by decide) (digits cs)
  · exact List.not_mem_nil

end Part

/-- A power has one `x`, and a constant has none. -/
lemma WrittenTerm.count_text_of_cut? {cs rest : List Char} {t : WrittenTerm}
    (h : cut? cs = some (t, rest)) : t.text.count 'x' = if t.isPower then 1 else 0 := by
  rcases Option.or_eq_some_iff.1 h with h | ⟨_, h⟩
  · unfold power? at h
    split at h
    · next tail _ =>
      obtain ⟨rfl, rfl⟩ := Prod.mk.inj (Option.some.inj h)
      rw [text, List.count_append, List.count_cons_self,
        List.count_eq_zero_of_not_mem (Part.coefficient_avoids_x cs),
        List.count_eq_zero_of_not_mem (Part.not_mem_exponentText tail)]
      rfl
    · cases h
  · unfold constant? at h
    split at h
    · cases h
    · obtain ⟨rfl, rfl⟩ := Prod.mk.inj (Option.some.inj h)
      exact List.count_eq_zero_of_not_mem (Part.number_avoids_x cs)

/-- An expression has as many powers as it has `x`. -/
lemma countP_isPower_writtenTerms (cs : List Char) :
    (writtenTerms cs).countP WrittenTerm.isPower = cs.count 'x' := by
  unfold writtenTerms
  fun_induction Lexeme.scan cs with
  | case1 => rfl
  | case2 c cs t rest cut _ ih =>
    rw [← (WrittenTerm.text_append_of_cut? cut).1, List.count_append,
      WrittenTerm.count_text_of_cut? cut, ← ih, Nat.add_comm]
    exact List.countP_cons
  | case3 c cs cut ih =>
    have other : c ≠ 'x' := fun hc => WrittenTerm.not_numeric_of_cut?_eq_none cut (.inr hc)
    rw [List.count_cons_of_ne other, ← ih]
    rfl

/-- The terms that are read stand in the expression one after the other, none of them empty; each
digit and each `x` of the expression belongs to exactly one of them, and each `x` to a power of its
own. -/
theorem occurrences_cover (cs : List Char) :
    readTerms cs = ((occurrences cs).map Occurrence.term).mapM WrittenTerm.read ∧
      (∀ o ∈ occurrences cs, o.term.text ≠ [] ∧
        ∃ before after, cs = before ++ (o.term.text ++ after) ∧ before.length = o.start) ∧
      (occurrences cs).Pairwise (fun o p => o.stop ≤ p.start) ∧
      (∀ (i : Nat) (c : Char), cs[i]? = some c → Numeric c →
        ∃! o, o ∈ occurrences cs ∧ o.Covers i) ∧
      (occurrences cs).countP (fun o => o.term.isPower) = cs.count 'x' := by
  have terms : (occurrences cs).map Occurrence.term = writtenTerms cs :=
    Lexeme.map_term_occurrences 0 _
  have apart := Lexeme.occurrences_pairwise 0 (Lexeme.scan cs)
  refine ⟨by rw [terms, readTerms], ?_, apart, ?_, ?_⟩
  · intro o ho
    obtain ⟨mem, before, after, eq, place⟩ := Lexeme.exists_append_of_mem_occurrences ho
    rw [Lexeme.flatMap_text_scan] at eq
    rw [Nat.zero_add] at place
    exact ⟨Lexeme.text_ne_nil_of_mem_scan mem, before, after, eq, place⟩
  · intro i c hi hc
    -- The pieces of a scan are the whole text, so the character is in one of them; and no numeric one
    -- is skipped.
    rw [← Lexeme.flatMap_text_scan cs] at hi
    obtain ⟨o, ho, covers⟩ := Lexeme.exists_covers_of_getElem? 0
      (fun _ => Lexeme.not_numeric_of_skipped_mem_scan) hc hi
    rw [Nat.zero_add] at covers
    exact ⟨o, ⟨ho, covers⟩, fun p hp => eq_of_covers apart hp.1 ho hp.2 covers⟩
  · rw [← countP_isPower_writtenTerms, ← terms, List.countP_map]
    rfl

end PolySurvey
