import PolySurvey.Proofs.Term.Literal

/-!
# Every well-formed expression is read

A summand is blanks, a sign, blanks, and then a power or a constant; only the first summand of an
expression may do without the sign. At each summand the scan skips the blanks before the sign and cuts
out the rest as one term, whatever the blanks and numbers are, so reading an expression gives one term
for each summand, and never fails.
-/

namespace PolySurvey

open Text Number

/-- Any number of blanks. -/
structure Blanks where
  chars : List Char
  isBlank : ∀ c ∈ chars, Text.isBlank c = true

/-- An exponent that can be read. A plus sign may stand before its digits. -/
structure Exponent where
  plus : Bool
  digits : Digits
  le : natOfDigits digits.chars ≤ maxExponent

/-- How an exponent is written. -/
def Exponent.text (e : Exponent) : List Char := (if e.plus then ['+'] else []) ++ e.digits.chars

/-- What stands after the sign of a summand. -/
inductive Unsigned where
  | power (coefficient : Option Literal) (exponent : Option Exponent)
  | constant (literal : Literal)

namespace Unsigned

/-- How a coefficient is written, if there is one. -/
def coefficientText : Option Literal → List Char
  | none => []
  | some literal => literal.text

/-- How a term without its sign is written. -/
def text : Unsigned → List Char
  | .power coefficient exponent =>
    coefficientText coefficient ++ 'x' :: WrittenTerm.exponentText (exponent.map Exponent.text)
  | .constant literal => literal.text

/-- One if no coefficient is written. -/
def coefficient (sign : LeadSign) : Unsigned → Float
  | .power none _ => sign.apply 1.0
  | .power (some literal) _ => literal.value sign
  | .constant literal => literal.value sign

/-- One if no exponent is written, and zero for a constant. -/
def exponent : Unsigned → Nat
  | .power _ none => 1
  | .power _ (some e) => natOfDigits e.digits.chars
  | .constant _ => 0

end Unsigned

/-- A term as it may be written. -/
structure Summand where
  before : Blanks
  sign : LeadSign
  between : Blanks
  unsigned : Unsigned

namespace Summand

/-- How a summand is written, with its sign and the blanks around it. -/
def text (s : Summand) : List Char :=
  s.before.chars ++ (s.sign.text ++ s.between.chars ++ s.unsigned.text)

/-- The term that a summand denotes. -/
def term (s : Summand) : Term := ⟨s.unsigned.coefficient s.sign, s.unsigned.exponent⟩

end Summand

/-- One or more summands. All but the first have a sign. -/
structure Expression where
  first : Summand
  later : List Summand
  signed : ∀ s ∈ later, s.sign ≠ .absent

namespace Expression

/-- The summands of an expression. -/
def summands (e : Expression) : List Summand := e.first :: e.later

/-- How an expression is written. -/
def text (e : Expression) : List Char := e.summands.flatMap Summand.text

end Expression

/-! ## Cutting out a summand -/

/-- A text that does not carry a term on. -/
structure EndsTerm (rest : List Char) : Prop extends EndsLiteral rest where
  x : rest.head? ≠ some 'x'
  caret : rest.head? ≠ some '^'

namespace EndsTerm

/-- A character that is no digit, point, slash, `x` or caret ends a term. -/
lemma cons {c : Char} (digit : c.isDigit = false) (other : c ∉ ['.', '/', 'x', '^'])
    (rest : List Char) : EndsTerm (c :: rest) where
  digit := by
    rintro _ ⟨⟩
    exact digit
  point := by
    rintro ⟨⟩
    simp at other
  slash := by
    rintro ⟨⟩
    simp at other
  x := by
    rintro ⟨⟩
    simp at other
  caret := by
    rintro ⟨⟩
    simp at other

/-- The end of the text ends a term. -/
lemma nil : EndsTerm [] where
  digit := nofun
  point := nofun
  slash := nofun
  x := nofun
  caret := nofun

end EndsTerm

/-- Where a summand may end: at the end of the text, a blank or a sign. -/
def EndsSummand (rest : List Char) : Prop :=
  ∀ c ∈ rest.head?, isBlank c = true ∨ c = '+' ∨ c = '-'

namespace EndsSummand

variable {rest : List Char}

/-- A summand is not followed by anything but a blank or a sign. -/
lemma head_ne (h : EndsSummand rest) {c : Char} (blank : isBlank c = false) (plus : c ≠ '+')
    (minus : c ≠ '-') : rest.head? ≠ some c := by
  intro hc
  rcases h c hc with hb | hb | hb
  · rw [blank] at hb
    cases hb
  · exact plus hb
  · exact minus hb

/-- What ends a summand ends a term. -/
lemma endsTerm (h : EndsSummand rest) : EndsTerm rest where
  digit c hc := by
    rcases h c hc with hb | rfl | rfl
    · exact Bool.eq_false_iff.2 fun digit =>
        Bool.false_ne_true ((isBlank_of_isDigit digit).symm.trans hb)
    · rfl
    · rfl
  point := h.head_ne (by decide) (by decide) (by decide)
  slash := h.head_ne (by decide) (by decide) (by decide)
  x := h.head_ne (by decide) (by decide) (by decide)
  caret := h.head_ne (by decide) (by decide) (by decide)

end EndsSummand

/-- An exponent is read as written. -/
lemma Part.exponent_eq (e : Option Exponent) {rest : List Char} (h : EndsTerm rest) :
    Part.exponent (WrittenTerm.exponentText (e.map Exponent.text) ++ rest) =
      (e.map Exponent.text, rest) := by
  cases e with
  | none =>
    cases rest with
    | nil => rfl
    | cons c rest =>
      have : c ≠ '^' := by simpa using h.caret
      simp [WrittenTerm.exponentText, Part.exponent, this]
  | some e =>
    have run : Part.digits.Takes e.digits.chars rest :=
      Part.digits_takes e.digits.isDigit h.digit
    have sign : Part.sign.Takes (if e.plus then ['+'] else []) (e.digits.chars ++ rest) := by
      cases e.plus with
      | true => rfl
      | false =>
        obtain ⟨c, tail, text, digit⟩ := exists_digit_cons e.digits.ne_nil e.digits.isDigit rest
        exact Part.sign_takes_nil (text ▸ not_startsWithSign_of_isDigit digit tail)
    -- The sign is optional, so with and without it the digits are what is taken next.
    have both := sign.andThen run
    rw [← Exponent.text] at both
    unfold Part.Takes at run sign both
    rw [← List.append_assoc, ← Exponent.text] at sign
    simp [WrittenTerm.exponentText, Part.exponent, Part.signedDigits, sign, run, both,
      e.digits.ne_nil]

namespace WrittenTerm

variable {w lead rest : List Char}

/-- Without an `x` after the coefficient there is no power. -/
lemma power?_eq_none (taken : Part.coefficient.Takes w rest) (x : rest.head? ≠ some 'x') :
    power? (w ++ rest) = none := by
  unfold Part.Takes at taken
  rw [power?, taken]
  cases rest with
  | nil => rfl
  | cons c rest =>
    have : c ≠ 'x' := by simpa using x
    simp [this]

/-- Without a digit after the lead there is no constant. -/
lemma constant?_eq_none (hl : Part.lead.Takes lead rest)
    (digit : ∀ c ∈ rest.head?, c.isDigit = false) : constant? (lead ++ rest) = none := by
  have digits := Part.digits_takes_nil digit
  rw [constant?, if_pos]
  unfold Part.Takes at hl digits
  rw [List.nil_append] at digits
  rw [hl, digits]

/-- What may lead a term is none if neither a number nor the variable follows. -/
lemma cut?_eq_none (hl : Part.lead.Takes lead rest) (h : EndsLiteral rest)
    (x : rest.head? ≠ some 'x') : cut? (lead ++ rest) = none := by
  rw [cut?, power?_eq_none (Part.coefficient_takes_lead hl h) x, Option.none_or,
    constant?_eq_none hl h.digit]

end WrittenTerm

namespace Unsigned

variable {lead rest : List Char}

/-- The written term of an unsigned summand with something that leads it. -/
def written (lead : List Char) : Unsigned → WrittenTerm
  | .power coefficient exponent =>
    .power (lead ++ coefficientText coefficient) (exponent.map Exponent.text)
  | .constant literal => .constant (lead ++ literal.text)

/-- A coefficient is taken as written. -/
lemma coefficient_takes (c : Option Literal)
    (hl : Part.lead.Takes lead (coefficientText c ++ rest)) (h : EndsLiteral rest) :
    Part.coefficient.Takes (lead ++ coefficientText c) rest := by
  cases c with
  | none =>
    rw [coefficientText, List.append_nil]
    exact Part.coefficient_takes_lead hl h
  | some l => exact Part.coefficient_takes_literal l hl h

/-- A power is cut off as written. -/
lemma cut?_power (c : Option Literal) (e : Option Exponent)
    (hl : Part.lead.Takes lead ((power c e).text ++ rest)) (h : EndsTerm rest) :
    WrittenTerm.cut? (lead ++ (power c e).text ++ rest) = some ((power c e).written lead, rest) := by
  rw [text, List.append_assoc] at hl
  have taken := coefficient_takes c hl (EndsLiteral.of_x _)
  unfold Part.Takes at taken
  rw [text, ← List.append_assoc, List.append_assoc _ _ rest, WrittenTerm.cut?, WrittenTerm.power?, taken]
  simp [Part.exponent_eq e h, written]

/-- A constant is cut off as written. -/
lemma cut?_constant (l : Literal) (hl : Part.lead.Takes lead (l.text ++ rest)) (h : EndsTerm rest) :
    WrittenTerm.cut? (lead ++ l.text ++ rest) = some ((constant l).written lead, rest) := by
  have coefficient := Part.coefficient_takes_literal l hl h.toEndsLiteral
  have number := Part.number_takes_literal l hl h.toEndsLiteral
  have digit : (Part.digits (l.text ++ rest)).1 ≠ [] := by
    obtain ⟨c, tail, text, digit⟩ := l.exists_text_eq_cons rest
    simp [text, Part.digits, Part.run, digit]
  unfold Part.Takes at hl number
  rw [WrittenTerm.cut?, WrittenTerm.power?_eq_none coefficient h.x, Option.none_or,
    WrittenTerm.constant?, number, List.append_assoc, hl, if_neg digit, written]

/-- A term is cut off as written. -/
lemma cut?_text (u : Unsigned) (hl : Part.lead.Takes lead (u.text ++ rest)) (h : EndsTerm rest) :
    WrittenTerm.cut? (lead ++ u.text ++ rest) = some (u.written lead, rest) := by
  cases u with
  | power coefficient exponent => exact cut?_power coefficient exponent hl h
  | constant literal => exact cut?_constant literal hl h

/-- No sign and no blank stands at the front. -/
lemma exists_text_eq_cons (u : Unsigned) (rest : List Char) :
    ∃ c tail, u.text ++ rest = c :: tail ∧ (c.isDigit = true ∨ c = 'x') := by
  cases u with
  | power coefficient exponent =>
    cases coefficient with
    | none => exact ⟨'x', _, rfl, .inr rfl⟩
    | some l =>
      rw [text, coefficientText, List.append_assoc]
      obtain ⟨c, tail, eq, digit⟩ := l.exists_text_eq_cons _
      exact ⟨c, tail, eq, .inl digit⟩
  | constant l =>
    obtain ⟨c, tail, eq, digit⟩ := l.exists_text_eq_cons rest
    exact ⟨c, tail, eq, .inl digit⟩

/-- The sign before a term is taken, with the blanks after it. -/
lemma lead_takes (u : Unsigned) (sign : LeadSign) (blanks : Blanks) (rest : List Char) :
    Part.lead.Takes (sign.text ++ blanks.chars) (u.text ++ rest) := by
  obtain ⟨c, tail, text, hc⟩ := u.exists_text_eq_cons rest
  rw [text]
  apply Part.lead_takes sign.text_cases blanks.isBlank
  · rcases hc with digit | rfl
    · exact not_startsWithSign_of_isDigit digit tail
    · simp [StartsWithSign]
  · rintro _ ⟨⟩
    rcases hc with digit | rfl
    · exact isBlank_of_isDigit digit
    · decide

end Unsigned

/-- A term at the front comes first. -/
lemma writtenTerms_of_cut? {cs rest : List Char} {t : WrittenTerm}
    (h : WrittenTerm.cut? cs = some (t, rest)) : writtenTerms cs = t :: writtenTerms rest := by
  cases cs with
  | nil =>
    obtain ⟨text, hne⟩ := WrittenTerm.text_append_of_cut? h
    exact absurd (List.append_eq_nil_iff.1 text).1 hne
  | cons c cs =>
    rw [writtenTerms, Lexeme.scan]
    split
    · next h' =>
      rw [h] at h'
      obtain ⟨rfl, rfl⟩ := Prod.mk.inj (Option.some.inj h')
      rfl
    · next h' => simp [h] at h'

/-- Nothing has no terms. -/
lemma readTerms_nil : readTerms [] = .ok [] := by
  rw [readTerms, writtenTerms, Lexeme.scan]
  rfl

/-- A term at the front is read first. -/
lemma readTerms_of_cut? {cs rest : List Char} {t : WrittenTerm} {first : Term} {later : List Term}
    (h : WrittenTerm.cut? cs = some (t, rest)) (read : t.read = .ok first)
    (hr : readTerms rest = .ok later) : readTerms cs = .ok (first :: later) := by
  rw [readTerms] at hr ⊢
  rw [writtenTerms_of_cut? h, List.mapM_cons, read, hr]
  rfl

/-- A character at which no term starts belongs to none. -/
lemma writtenTerms_of_cut?_eq_none {c : Char} {cs : List Char}
    (h : WrittenTerm.cut? (c :: cs) = none) : writtenTerms (c :: cs) = writtenTerms cs := by
  rw [writtenTerms, Lexeme.scan]
  split
  · next h' => simp [h] at h'
  · rfl

/-- Where there is no term at the front, a character is passed over. -/
lemma readTerms_of_cut?_eq_none {c : Char} {cs : List Char} (h : WrittenTerm.cut? (c :: cs) = none) :
    readTerms (c :: cs) = readTerms cs := by
  rw [readTerms, writtenTerms_of_cut?_eq_none h, readTerms]

/-- Blanks before a sign are no term. -/
lemma cut?_blanks {b : Char} {blanks rest : List Char}
    (hb : ∀ c ∈ b :: blanks, isBlank c = true) (sign : StartsWithSign rest) :
    WrittenTerm.cut? (b :: blanks ++ rest) = none := by
  have unsigned := not_startsWithSign_of_isBlank (hb b (List.mem_cons_self ..))
  have run : (Part.run isBlank).Takes (b :: blanks) rest :=
    Part.run_takes hb (sign.head_not (by decide) (by decide))
  have lead : Part.lead.Takes ([] ++ b :: blanks) rest :=
    (Part.sign_takes_nil (unsigned _)).andThen run
  have ends : EndsSummand rest := by
    obtain ⟨c, tail, rfl, hc⟩ := sign.exists_cons
    rintro _ ⟨⟩
    exact .inr hc
  exact WrittenTerm.cut?_eq_none lead ends.endsTerm.toEndsLiteral ends.endsTerm.x

/-- Blanks before a sign belong to no term. -/
lemma writtenTerms_blanks {blanks rest : List Char} (hb : ∀ c ∈ blanks, isBlank c = true)
    (sign : StartsWithSign rest) : writtenTerms (blanks ++ rest) = writtenTerms rest := by
  induction blanks with
  | nil => rfl
  | cons b blanks ih =>
    rw [← ih (List.forall_mem_cons.1 hb).2, List.cons_append]
    exact writtenTerms_of_cut?_eq_none (cut?_blanks hb sign)

namespace Summand

/-- What the scan cuts out before the unsigned part. Without a sign, the blanks at the front belong to
the term. -/
def lead (s : Summand) : List Char :=
  if s.sign = .absent then s.before.chars ++ s.between.chars else s.sign.text ++ s.between.chars

/-- A summand as it is found in the text. -/
def written (s : Summand) : WrittenTerm := s.unsigned.written s.lead

/-- Blanks after blanks are blank. -/
lemma isBlank_append (as bs : Blanks) : ∀ c ∈ as.chars ++ bs.chars, isBlank c = true := by
  intro c hc
  rcases List.mem_append.1 hc with hc | hc
  · exact as.isBlank c hc
  · exact bs.isBlank c hc

/-- A summand is one written term, and what follows it is not part of the term. -/
lemma writtenTerms_text (s : Summand) {rest : List Char} (h : EndsTerm rest) :
    writtenTerms (s.text ++ rest) = s.written :: writtenTerms rest := by
  by_cases absent : s.sign = .absent
  · have cut := s.unsigned.cut?_text
      (s.unsigned.lead_takes .absent ⟨_, isBlank_append s.before s.between⟩ rest) h
    have text : s.text = LeadSign.absent.text ++ (s.before.chars ++ s.between.chars) ++
        s.unsigned.text := by
      simp [Summand.text, absent, LeadSign.text]
    rw [text, writtenTerms_of_cut? cut, written, lead, if_pos absent]
    rfl
  · have signed := LeadSign.startsWithSign_text absent (s.between.chars ++ (s.unsigned.text ++ rest))
    have cut := s.unsigned.cut?_text (s.unsigned.lead_takes s.sign s.between rest) h
    rw [← List.append_assoc, ← List.append_assoc] at signed
    rw [text, List.append_assoc, writtenTerms_blanks s.before.isBlank signed,
      writtenTerms_of_cut? cut, written, lead, if_neg absent]

/-- Of blanks nothing is left. -/
lemma compact_blanks (blanks : Blanks) : compact blanks.chars = [] := by
  rw [compact, List.filter_eq_nil_iff]
  intro c hc
  simp [blanks.isBlank c hc]

/-- Of the sign and the blanks after it the sign is left. -/
lemma compact_lead (s : Summand) : compact s.lead = s.sign.text := by
  unfold lead
  split
  · next absent => simp [compact_append, compact_blanks, absent, LeadSign.text]
  · simp [compact_append, compact_blanks, s.sign.compact_text]

/-- Of a signed literal the blanks are dropped. -/
lemma compact_lead_append (s : Summand) (l : Literal) :
    compact (s.lead ++ l.text) = s.sign.text ++ l.text := by
  rw [compact_append, compact_lead, l.compact_text]

/-- A signed literal is read as its value. -/
lemma readFraction_lead_append (s : Summand) (l : Literal) :
    readFraction (s.lead ++ l.text) = .ok (l.value s.sign) :=
  Literal.readFraction_of_compact (s.compact_lead_append l)

/-- The coefficient of a power is read as its value, and a sign alone as one. -/
lemma readCoefficient_eq (s : Summand) (c : Option Literal) (e : Option Exponent) :
    WrittenTerm.readCoefficient (s.lead ++ Unsigned.coefficientText c) =
      .ok ((Unsigned.power c e).coefficient s.sign) := by
  cases c with
  | none =>
    rw [WrittenTerm.readCoefficient, Unsigned.coefficientText, List.append_nil, compact_lead]
    cases s.sign <;> rfl
  | some l => exact Literal.readCoefficient_of_compact (s.compact_lead_append l)

end Summand

/-- An exponent is read as its digits. -/
lemma Exponent.readInt32?_text (e : Exponent) :
    readInt32? e.text = some (natOfDigits e.digits.chars : Int) := by
  obtain ⟨plus, digits, le⟩ := e
  cases plus with
  | false => exact digits.readInt32?_chars le
  | true => exact readInt32?_of_readNat? (readInt?_plus _) digits.readNat?_chars le

/-- The exponent of a term is read as written; without one it is one. -/
lemma Unsigned.readExponent_eq (c : Option Literal) (e : Option Exponent) :
    WrittenTerm.readExponent (e.map Exponent.text) = .ok ((power c e).exponent : Int) := by
  cases e with
  | none => rfl
  | some e =>
    rw [Option.map_some, WrittenTerm.readExponent, e.readInt32?_text]
    rfl

/-- No exponent of a written term is too large. -/
lemma Unsigned.exponent_le (u : Unsigned) : u.exponent ≤ maxExponent := by
  cases u with
  | constant l => exact Nat.zero_le _
  | power c e =>
    cases e with
    | none => exact (by decide : 1 ≤ maxExponent)
    | some e => exact e.le

/-- A summand is read as its term. -/
lemma Summand.read_written (s : Summand) : s.written.read = .ok s.term := by
  unfold written term
  cases s.unsigned with
  | constant l =>
    rw [Unsigned.written, WrittenTerm.read, readFraction_lead_append]
    rfl
  | power c e =>
    have le := (Unsigned.power c e).exponent_le
    have natural : ¬ ((Unsigned.power c e).exponent : Int) < 0 := by omega
    have small : ¬ (maxExponent : Int) < (Unsigned.power c e).exponent := by omega
    rw [Unsigned.written, WrittenTerm.read, s.readCoefficient_eq c e, Unsigned.readExponent_eq c e]
    simp only [bind, Except.bind, if_neg natural, if_neg small]
    rfl

/-! ## All summands -/

/-- A summand with a sign ends the one before it. -/
lemma endsSummand_text {s : Summand} (h : s.sign ≠ .absent) (rest : List Char) :
    EndsSummand (s.text ++ rest) := by
  obtain ⟨⟨before, blank⟩, sign, between, unsigned⟩ := s
  cases before with
  | cons b before =>
    rintro _ ⟨⟩
    exact .inl (blank b (List.mem_cons_self ..))
  | nil =>
    cases sign with
    | absent => exact absurd rfl h
    | plus =>
      rintro _ ⟨⟩
      exact .inr (.inl rfl)
    | minus =>
      rintro _ ⟨⟩
      exact .inr (.inr rfl)

/-- So do all later summands, and the end. -/
lemma endsSummand_flatMap_text {later : List Summand} (h : ∀ s ∈ later, s.sign ≠ .absent) :
    EndsSummand (later.flatMap Summand.text) := by
  cases later with
  | nil => rintro _ ⟨⟩
  | cons s later => exact endsSummand_text (h s (List.mem_cons_self ..)) _

/-- Each summand is one written term, by induction on the summands after the first. -/
lemma writtenTerms_flatMap_text (s : Summand) {later : List Summand}
    (h : ∀ s ∈ later, s.sign ≠ .absent) :
    writtenTerms ((s :: later).flatMap Summand.text) = (s :: later).map Summand.written := by
  rw [List.flatMap_cons, s.writtenTerms_text (endsSummand_flatMap_text h).endsTerm, List.map_cons]
  induction later generalizing s with
  | nil =>
    rw [List.flatMap_nil, writtenTerms, Lexeme.scan]
    rfl
  | cons t later ih =>
    have tail := (List.forall_mem_cons.1 h).2
    rw [List.flatMap_cons, t.writtenTerms_text (endsSummand_flatMap_text tail).endsTerm,
      List.map_cons, ih t tail]

/-- All summands are read as their terms. -/
lemma mapM_read_written (summands : List Summand) :
    (summands.map Summand.written).mapM WrittenTerm.read = .ok (summands.map Summand.term) := by
  induction summands with
  | nil => rfl
  | cons s summands ih =>
    rw [List.map_cons, List.mapM_cons, s.read_written, ih]
    rfl

/-- A summand at the front is read first. -/
lemma Summand.readTerms_text_append (s : Summand) {rest : List Char} (h : EndsTerm rest) :
    readTerms (s.text ++ rest) = (s.term :: ·) <$> readTerms rest := by
  rw [readTerms, s.writtenTerms_text h, List.mapM_cons, s.read_written, readTerms]
  rfl

/-- A single summand without blanks. -/
lemma Unsigned.readTerms_text_append (sign : LeadSign) (u : Unsigned) {rest : List Char}
    (h : EndsTerm rest) : readTerms (sign.text ++ u.text ++ rest) =
      (⟨u.coefficient sign, u.exponent⟩ :: ·) <$> readTerms rest := by
  let none : Blanks := ⟨[], List.forall_mem_nil _⟩
  let s : Summand := ⟨none, sign, none, u⟩
  have text : s.text = sign.text ++ u.text := by simp [s, none, Summand.text]
  rw [← text, s.readTerms_text_append h]
  rfl

/-- A single term with its sign. -/
lemma Unsigned.readTerms_append_text (sign : LeadSign) (u : Unsigned) :
    readTerms (sign.text ++ u.text) = .ok [⟨u.coefficient sign, u.exponent⟩] := by
  rw [← List.append_nil (sign.text ++ u.text), u.readTerms_text_append sign EndsTerm.nil, readTerms_nil]
  rfl

/-- The text of every expression is read as the terms of its summands, one for each, in order. -/
theorem Expression.readTerms_text (e : Expression) :
    readTerms e.text = .ok (e.summands.map Summand.term) := by
  rw [readTerms, text, summands, writtenTerms_flatMap_text e.first e.signed]
  exact mapM_read_written _

end PolySurvey
