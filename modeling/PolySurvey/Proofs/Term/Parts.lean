import Mathlib.Tactic.Lemma
import PolySurvey.Term.Reading

/-!
# Where the parts of a term stop

A part of a term reads as far as it can, so what it takes from a text may change when more text
follows. `Part.StopsBefore p as bs` says that it does not: from `as` and `bs` put together, `p` takes
what it takes from `as` alone. Each part stops before a sign, except where a sign could be its first
character. `Part.Takes p w rest` is the special case that the part takes all of `w` and no more; from
it the term that a written text is cut into is computed.
-/

namespace PolySurvey

/-- A text that begins with a sign. -/
def StartsWithSign (cs : List Char) : Prop := cs.head? = some '+' ∨ cs.head? = some '-'

namespace StartsWithSign

/-- A text that begins with a sign begins with plus or minus. -/
lemma exists_cons {cs : List Char} (h : StartsWithSign cs) :
    ∃ c rest, cs = c :: rest ∧ (c = '+' ∨ c = '-') := by
  cases cs with
  | nil => simp [StartsWithSign] at h
  | cons c rest => exact ⟨c, rest, rfl, by simpa [StartsWithSign] using h⟩

/-- A sign is neither a digit nor a blank. -/
lemma head_not {kind : Char → Bool} {cs : List Char} (h : StartsWithSign cs)
    (plus : kind '+' = false) (minus : kind '-' = false) : ∀ c ∈ cs.head?, kind c = false := by
  intro c hc
  rcases h with h | h
  · rw [h, Option.mem_some_iff] at hc
    exact hc ▸ plus
  · rw [h, Option.mem_some_iff] at hc
    exact hc ▸ minus

end StartsWithSign

/-- No blank is a sign. -/
lemma not_startsWithSign_of_isBlank {c : Char} (h : Text.isBlank c = true) (rest : List Char) :
    ¬ StartsWithSign (c :: rest) := by
  rintro (hc | hc)
  · obtain rfl := Option.some.inj hc
    exact absurd h (by decide)
  · obtain rfl := Option.some.inj hc
    exact absurd h (by decide)

namespace Part

/-- What a part takes from a text is not changed by the text after it. -/
def StopsBefore (p : Part) (as bs : List Char) : Prop := p (as ++ bs) = ((p as).1, (p as).2 ++ bs)

/-- A part takes a text, and nothing of the text after it. -/
def Takes (p : Part) (w rest : List Char) : Prop := p (w ++ rest) = (w, rest)

/-- Two parts stop before a sign if each does. -/
lemma StopsBefore.andThen {p q : Part} {as bs : List Char} (hp : p.StopsBefore as bs)
    (hq : q.StopsBefore (p as).2 bs) : (p.andThen q).StopsBefore as bs := by
  unfold StopsBefore at *
  simp only [Part.andThen, hp, hq]

/-- Two parts take two texts, one after the other. -/
lemma Takes.andThen {p q : Part} {v w rest : List Char} (hp : p.Takes v (w ++ rest))
    (hq : q.Takes w rest) : (p.andThen q).Takes (v ++ w) rest := by
  unfold Takes at *
  rw [List.append_assoc]
  simp only [Part.andThen, hp, hq]

/-- A run stops before a text whose first character is of another kind. -/
lemma run_stopsBefore {kind : Char → Bool} (as : List Char) {bs : List Char}
    (h : ∀ c ∈ bs.head?, kind c = false) : (run kind).StopsBefore as bs := by
  induction as with
  | nil =>
    cases bs with
    | nil => rfl
    | cons b bs => simp [StopsBefore, run, h b rfl]
  | cons a as ih =>
    unfold StopsBefore run at *
    by_cases ha : kind a = true
    · simpa [ha] using ih
    · simp [ha]

/-- A run takes characters of its kind, up to one of another kind. -/
lemma run_takes {kind : Char → Bool} {w rest : List Char} (hw : ∀ c ∈ w, kind c = true)
    (h : ∀ c ∈ rest.head?, kind c = false) : (run kind).Takes w rest := by
  unfold Takes run
  rw [List.takeWhile_append_of_pos hw, List.dropWhile_append_of_pos hw]
  cases rest with
  | nil => simp
  | cons c rest => simp [h c rfl]

/-! ## Before a sign -/

/-- A sign could be the first character of a term, so the text before it must not be empty. -/
lemma sign_stopsBefore {as : List Char} (ha : as ≠ []) (bs : List Char) :
    sign.StopsBefore as bs := by
  cases as with
  | nil => exact absurd rfl ha
  | cons a as =>
    unfold StopsBefore sign
    by_cases plus : a = '+'
    · subst plus
      rfl
    · by_cases minus : a = '-'
      · subst minus
        rfl
      · simp [plus, minus]

section

variable {bs : List Char} (hb : StartsWithSign bs)

include hb

/-- Digits stop before a sign. -/
lemma digits_stopsBefore (as : List Char) : digits.StopsBefore as bs :=
  run_stopsBefore as (hb.head_not (by decide) (by decide))

/-- Blanks stop before a sign. -/
lemma blanks_stopsBefore (as : List Char) : (run Text.isBlank).StopsBefore as bs :=
  run_stopsBefore as (hb.head_not (by decide) (by decide))

/-- A point stops before a sign. -/
lemma point_stopsBefore (as : List Char) : point.StopsBefore as bs := by
  cases as with
  | nil =>
    obtain ⟨c, rest, rfl, hc⟩ := hb.exists_cons
    rcases hc with rfl | rfl <;> rfl
  | cons a as =>
    unfold StopsBefore point
    by_cases ha : a = '.'
    · subst ha
      rfl
    · simp [ha]

/-- Digits after a mark stop before a sign, unless it is the mark. -/
lemma marked_stopsBefore (mark : Char) (plus : mark ≠ '+') (minus : mark ≠ '-') (as : List Char) :
    (marked mark).StopsBefore as bs := by
  cases as with
  | nil =>
    obtain ⟨c, rest, rfl, hc⟩ := hb.exists_cons
    have : c ≠ mark := by
      rcases hc with rfl | rfl
      · exact plus.symm
      · exact minus.symm
    simp [StopsBefore, marked, this]
  | cons a as =>
    have stop := digits_stopsBefore hb as
    unfold StopsBefore at *
    simp only [List.cons_append, marked, stop]
    split <;> rfl

/-- Divisors stop before a sign. -/
lemma divisors_stopsBefore (as : List Char) : Part.StopsBefore divisors as bs := by
  have slash := marked_stopsBefore hb '/' (by decide) (by decide)
  have part := fun as => (slash as).andThen
    (marked_stopsBefore hb '.' (by decide) (by decide) _)
  unfold StopsBefore at *
  fun_induction divisors as with
  | case1 as h =>
    rw [divisors, dif_pos (by rw [slash, h])]
  | case2 as h first _ rest ih =>
    rw [divisors, dif_neg (by rw [slash]; exact h)]
    simp only [part, first, rest, ih]

/-- A lead with something before the sign stops there. -/
lemma lead_stopsBefore {as : List Char} (ha : as ≠ []) : lead.StopsBefore as bs :=
  (sign_stopsBefore ha bs).andThen (blanks_stopsBefore hb _)

/-- So does a coefficient. -/
lemma coefficient_stopsBefore {as : List Char} (ha : as ≠ []) : coefficient.StopsBefore as bs :=
  (lead_stopsBefore hb ha).andThen ((digits_stopsBefore hb _).andThen
    ((point_stopsBefore hb _).andThen ((digits_stopsBefore hb _).andThen
      (divisors_stopsBefore hb _))))

/-- So does a number. -/
lemma number_stopsBefore {as : List Char} (ha : as ≠ []) : number.StopsBefore as bs :=
  (lead_stopsBefore hb ha).andThen ((digits_stopsBefore hb _).andThen
    ((marked_stopsBefore hb '.' (by decide) (by decide) _).andThen (divisors_stopsBefore hb _)))

/-- An exponent stops before a sign unless it is the caret alone that stands before it. -/
lemma exponent_stopsBefore {as : List Char} (ha : as ≠ ['^']) :
    exponent (as ++ bs) = ((exponent as).1, (exponent as).2 ++ bs) := by
  cases as with
  | nil =>
    obtain ⟨c, rest, rfl, hc⟩ := hb.exists_cons
    rcases hc with rfl | rfl <;> rfl
  | cons a as =>
    by_cases caret : a = '^'
    · subst caret
      have hne : as ≠ [] := fun h => ha (by rw [h])
      have stop := sign_stopsBefore hne bs
      have digits := digits_stopsBefore hb (sign as).2
      have both := stop.andThen digits
      unfold StopsBefore at stop digits both
      simp only [List.cons_append, exponent, signedDigits, stop, digits, both]
      split <;> rfl
    · simp [exponent, caret]

end

/-! ## Over a written part -/

section

variable {w rest : List Char}

/-- A sign is taken. -/
lemma sign_takes (hw : w = ['+'] ∨ w = ['-']) (rest : List Char) : sign.Takes w rest := by
  rcases hw with rfl | rfl <;> rfl

/-- Without a sign nothing is taken for one. -/
lemma sign_takes_nil (h : ¬ StartsWithSign rest) : sign.Takes [] rest := by
  cases rest with
  | nil => rfl
  | cons c rest =>
    have plus : c ≠ '+' := fun hc => h (Or.inl (congrArg some hc))
    have minus : c ≠ '-' := fun hc => h (Or.inr (congrArg some hc))
    simp [Takes, sign, plus, minus]

/-- Digits are taken, up to what is none. -/
lemma digits_takes (hw : ∀ c ∈ w, c.isDigit = true) (h : ∀ c ∈ rest.head?, c.isDigit = false) :
    digits.Takes w rest := run_takes hw h

/-- A point is taken. -/
lemma point_takes (rest : List Char) : point.Takes ['.'] rest := rfl

/-- Digits after a mark are taken with the mark. -/
lemma marked_takes {mark : Char} (hne : w ≠ []) (hw : ∀ c ∈ w, c.isDigit = true)
    (h : ∀ c ∈ rest.head?, c.isDigit = false) : (marked mark).Takes (mark :: w) rest := by
  have taken := digits_takes hw h
  unfold Takes at *
  simp [marked, taken, hne]

/-- Without the mark nothing is taken. -/
lemma marked_takes_nil {mark : Char} (h : rest.head? ≠ some mark) : (marked mark).Takes [] rest := by
  cases rest with
  | nil => rfl
  | cons c rest =>
    have hc : c ≠ mark := by simpa using h
    simp [Takes, marked, hc]

/-- Without a slash no divisor is taken. -/
lemma divisors_takes_nil (h : rest.head? ≠ some '/') : Part.Takes divisors [] rest := by
  have taken := marked_takes_nil h
  unfold Takes at *
  rw [List.nil_append] at *
  rw [divisors, dif_pos (by rw [taken])]

/-- Before a character that is neither a sign nor a blank, the lead is the sign and its blanks. -/
lemma lead_takes {blanks : List Char} (hw : w = [] ∨ w = ['+'] ∨ w = ['-'])
    (hb : ∀ c ∈ blanks, Text.isBlank c = true) (unsigned : ¬ StartsWithSign rest)
    (blank : ∀ c ∈ rest.head?, Text.isBlank c = false) : lead.Takes (w ++ blanks) rest := by
  have run : (run Text.isBlank).Takes blanks rest := run_takes hb blank
  rcases hw with rfl | hw
  · apply Takes.andThen (sign_takes_nil _) run
    cases blanks with
    | nil => exact unsigned
    | cons b blanks => exact not_startsWithSign_of_isBlank (hb b (List.mem_cons_self ..)) _
  · exact (sign_takes hw _).andThen run

end

end Part

end PolySurvey
