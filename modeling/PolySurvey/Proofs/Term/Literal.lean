import Mathlib.Data.List.TakeWhile
import PolySurvey.Proofs.Term.Parts

/-!
# Numbers with slashes

A numeral is digits, perhaps with a point and more digits after it. A literal is a numeral and any
number of further ones, each after a slash. A literal denotes the chain of the divisions from left to
right, where the sign before it belongs to the first number. Both ways in which a term takes a number
from a text take the whole of a literal, and reading it gives what it denotes.
-/

namespace PolySurvey

open Text Number

/-- At least one decimal digit. -/
structure Digits where
  chars : List Char
  ne_nil : chars ≠ []
  isDigit : ∀ c ∈ chars, c.isDigit = true

/-- Digits, perhaps with a point and more digits after it. -/
structure Numeral where
  whole : Digits
  fraction : Option Digits

/-- A numeral, and the numerals that it is divided by. -/
structure Literal where
  numerator : Numeral
  divisors : List Numeral

/-- The sign before a number, if there is one. -/
inductive LeadSign where
  | absent
  | plus
  | minus
deriving DecidableEq

namespace LeadSign

/-- How a sign before a term is written. -/
def text : LeadSign → List Char
  | .absent => []
  | .plus => ['+']
  | .minus => ['-']

/-- The number with a sign before it. -/
def apply : LeadSign → Float → Float
  | .minus, x => -x
  | _, x => x

/-- A sign is nothing, a plus or a minus. -/
lemma text_cases (sign : LeadSign) :
    sign.text = [] ∨ sign.text = ['+'] ∨ sign.text = ['-'] := by
  cases sign with
  | absent => exact .inl rfl
  | plus => exact .inr (.inl rfl)
  | minus => exact .inr (.inr rfl)

end LeadSign

namespace Numeral

/-- How the places after a point are written, with the point. -/
def fractionText : Option Digits → List Char
  | none => []
  | some digits => '.' :: digits.chars

/-- How a numeral is written. -/
def text (n : Numeral) : List Char := n.whole.chars ++ fractionText n.fraction

/-- The double nearest to a numeral. -/
def value (n : Numeral) : Float :=
  match n.fraction with
  | none => OfScientific.ofScientific (natOfDigits n.whole.chars) false 0
  | some digits =>
    OfScientific.ofScientific (natOfDigits (n.whole.chars ++ digits.chars)) true digits.chars.length

end Numeral

namespace Literal

/-- The text of a divisor with its slash. -/
def divisorText (n : Numeral) : List Char := '/' :: n.text

/-- How a literal is written. -/
def text (l : Literal) : List Char := l.numerator.text ++ l.divisors.flatMap divisorText

/-- A literal begins with the whole part of its numerator. -/
lemma text_eq (l : Literal) :
    l.text = l.numerator.whole.chars ++
      (Numeral.fractionText l.numerator.fraction ++ l.divisors.flatMap divisorText) :=
  List.append_assoc ..

/-- The divisions from left to right. -/
def value (sign : LeadSign) (l : Literal) : Float :=
  l.divisors.foldl (fun x n => x / n.value) (sign.apply l.numerator.value)

end Literal

/-- Digits with at most one point anywhere among them. There may be no digit at all. -/
structure Mantissa where
  whole : List Char
  fraction : Option (List Char)
  isDigit : ∀ c ∈ whole ++ fraction.getD [], c.isDigit = true

namespace Mantissa

/-- All digits of a mantissa. -/
def digits (m : Mantissa) : List Char := m.whole ++ m.fraction.getD []

/-- How the digits after a point are written, with the point. -/
def fractionText : Option (List Char) → List Char
  | none => []
  | some digits => '.' :: digits

/-- How a mantissa is written. -/
def text (m : Mantissa) : List Char := m.whole ++ fractionText m.fraction

/-- The double nearest to a mantissa that has a digit. -/
def value (m : Mantissa) : Float :=
  scaleDecimal (natOfDigits m.digits) m.digits.length (0 - (m.fraction.getD []).length)

end Mantissa

namespace Numeral

/-- The digits after the point. -/
def places (n : Numeral) : List Char := (n.fraction.map Digits.chars).getD []

/-- A numeral has nothing but digits before and after its point. -/
lemma isDigit_append_places (n : Numeral) :
    ∀ c ∈ n.whole.chars ++ n.places, c.isDigit = true := by
  refine List.forall_mem_append.2 ⟨n.whole.isDigit, ?_⟩
  rw [places]
  cases n.fraction with
  | none => exact List.forall_mem_nil _
  | some d => exact d.isDigit

/-- A numeral is a mantissa with a digit before the point. -/
def mantissa (n : Numeral) : Mantissa :=
  ⟨n.whole.chars, n.fraction.map Digits.chars, n.isDigit_append_places⟩

/-- A numeral is written as its mantissa is. -/
lemma text_mantissa (n : Numeral) : n.mantissa.text = n.text := by
  obtain ⟨whole, _ | fraction⟩ := n <;> rfl

end Numeral

/-! ## Digits -/

/-- The code points of the digits. -/
lemma toNat_of_isDigit {c : Char} (h : c.isDigit = true) : 48 ≤ c.toNat ∧ c.toNat ≤ 57 := by
  simp only [Char.isDigit, Bool.and_eq_true, decide_eq_true_eq, ge_iff_le,
    UInt32.le_iff_toNat_le] at h
  exact h

/-- No digit is blank. -/
lemma isBlank_of_isDigit {c : Char} (h : c.isDigit = true) : isBlank c = false := by
  have outside : ∀ n ∈ blankCodes, n < 48 ∨ 57 < n := by decide
  rw [isBlank, List.contains_eq_mem, decide_eq_false_iff_not]
  intro blank
  have := outside _ blank
  have := toNat_of_isDigit h
  omega

/-- Digits have no small letters. -/
lemma toLower_of_isDigit {c : Char} (h : c.isDigit = true) : c.toLower = c := by
  have := toNat_of_isDigit h
  refine dif_neg ?_
  simp only [ge_iff_le, UInt32.le_iff_toNat_le, not_and]
  intro upper
  have : 65 ≤ c.toNat := upper
  omega

/-- A text that begins with digits begins with no sign. -/
lemma exists_digit_cons {digits : List Char} (hne : digits ≠ [])
    (hd : ∀ c ∈ digits, c.isDigit = true) (rest : List Char) :
    ∃ c tail, digits ++ rest = c :: tail ∧ c.isDigit = true := by
  cases digits with
  | nil => exact absurd rfl hne
  | cons c digits => exact ⟨c, digits ++ rest, rfl, hd c (List.mem_cons_self ..)⟩

/-- No digit is a sign. -/
lemma not_startsWithSign_of_isDigit {c : Char} (h : c.isDigit = true) (rest : List Char) :
    ¬ StartsWithSign (c :: rest) := by
  rintro (hc | hc)
  · obtain rfl := Option.some.inj hc
    cases h
  · obtain rfl := Option.some.inj hc
    cases h

/-- A numeral begins with a digit. -/
lemma Numeral.exists_text_eq_cons (n : Numeral) (rest : List Char) :
    ∃ c tail, n.text ++ rest = c :: tail ∧ c.isDigit = true := by
  rw [text, List.append_assoc]
  exact exists_digit_cons n.whole.ne_nil n.whole.isDigit _

/-- A literal begins with a digit. -/
lemma Literal.exists_text_eq_cons (l : Literal) (rest : List Char) :
    ∃ c tail, l.text ++ rest = c :: tail ∧ c.isDigit = true := by
  rw [text, List.append_assoc]
  exact l.numerator.exists_text_eq_cons _

/-! ## What the parts of a term take -/

/-- A text that does not carry a numeral on. -/
structure EndsNumeral (rest : List Char) : Prop where
  digit : ∀ c ∈ rest.head?, c.isDigit = false
  point : rest.head? ≠ some '.'

/-- A text that does not carry a literal on. -/
structure EndsLiteral (rest : List Char) : Prop extends EndsNumeral rest where
  slash : rest.head? ≠ some '/'

namespace EndsLiteral

/-- A literal ends before an `x`. -/
lemma of_x (rest : List Char) : EndsLiteral ('x' :: rest) where
  digit := by
    rintro _ ⟨⟩
    rfl
  point := by rintro ⟨⟩
  slash := by rintro ⟨⟩

/-- A numeral ends before the divisors after it. -/
lemma chain {rest : List Char} (h : EndsLiteral rest) (divisors : List Numeral) :
    EndsNumeral (divisors.flatMap Literal.divisorText ++ rest) := by
  cases divisors with
  | nil => exact h.toEndsNumeral
  | cons n divisors =>
    constructor
    · rintro c ⟨⟩
      rfl
    · rintro ⟨⟩

end EndsLiteral

namespace Part

variable {lead v w rest : List Char}

/-- Without a point nothing is taken for one. -/
lemma point_takes_nil (h : rest.head? ≠ some '.') : point.Takes [] rest := by
  cases rest with
  | nil => rfl
  | cons c rest =>
    have hc : c ≠ '.' := by simpa using h
    simp [Takes, point, hc]

/-- Without a digit nothing is taken for digits. -/
lemma digits_takes_nil (h : ∀ c ∈ rest.head?, c.isDigit = false) : digits.Takes [] rest :=
  digits_takes (by simp) h

/-- Before a number, the lead is its sign. -/
lemma lead_takes_sign (sign : LeadSign) {c : Char} (number : c.isDigit = true ∨ c = '.')
    (cs : List Char) : Part.lead.Takes sign.text (c :: cs) := by
  rw [← List.append_nil sign.text]
  rcases number with digit | rfl
  · apply lead_takes sign.text_cases (List.forall_mem_nil _) (not_startsWithSign_of_isDigit digit cs)
    rintro _ ⟨⟩
    exact isBlank_of_isDigit digit
  · apply lead_takes sign.text_cases (List.forall_mem_nil _)
    · simp [StartsWithSign]
    · rintro _ ⟨⟩
      decide

/-- The places after a point are taken as written. -/
lemma marked_takes_fraction (fraction : Option Digits) (h : EndsNumeral rest) :
    (marked '.').Takes (Numeral.fractionText fraction) rest := by
  cases fraction with
  | none => exact marked_takes_nil h.point
  | some d => exact marked_takes d.ne_nil d.isDigit h.digit

/-- The digits before a point end where the point comes. -/
lemma digit_fractionText (fraction : Option Digits) (h : EndsNumeral rest) :
    ∀ c ∈ (Numeral.fractionText fraction ++ rest).head?, c.isDigit = false := by
  cases fraction with
  | none => exact h.digit
  | some d =>
    rintro c ⟨⟩
    rfl

/-- One divisor more at the front. -/
lemma divisors_takes_cons (slash : (marked '/' (v ++ (w ++ rest))).1 ≠ [])
    (first : ((marked '/').andThen (marked '.')).Takes v (w ++ rest))
    (later : Part.Takes divisors w rest) : Part.Takes divisors (v ++ w) rest := by
  unfold Takes at *
  rw [List.append_assoc, divisors, dif_neg slash]
  simp only [first, later]

/-- The divisors of a literal are taken one after the other. -/
lemma divisors_takes (ns : List Numeral) (h : EndsLiteral rest) :
    Part.Takes divisors (ns.flatMap Literal.divisorText) rest := by
  induction ns with
  | nil => exact divisors_takes_nil h.slash
  | cons n ns ih =>
    have ends := h.chain ns
    have whole : (marked '/').Takes ('/' :: n.whole.chars)
        (Numeral.fractionText n.fraction ++ (ns.flatMap Literal.divisorText ++ rest)) :=
      marked_takes n.whole.ne_nil n.whole.isDigit (digit_fractionText n.fraction ends)
    have first := whole.andThen (marked_takes_fraction n.fraction ends)
    apply divisors_takes_cons _ first ih
    unfold Takes at whole
    simp only [List.cons_append, List.append_assoc] at whole ⊢
    simp [whole]

/-- Before the variable, a mantissa is taken whole, and so are its divisors. -/
lemma coefficient_takes (m : Mantissa) (ns : List Numeral)
    (hl : Part.lead.Takes lead (m.text ++ (ns.flatMap Literal.divisorText ++ rest)))
    (h : EndsLiteral rest) :
    coefficient.Takes (lead ++ (m.text ++ ns.flatMap Literal.divisorText)) rest := by
  obtain ⟨whole, fraction⟩ := List.forall_mem_append.1 m.isDigit
  have ends := h.chain ns
  have chain := divisors_takes ns h
  rw [← List.append_assoc] at hl
  refine hl.andThen ?_
  rw [Mantissa.text, List.append_assoc]
  -- A mantissa without a point is followed by no digit and no point, so nothing is taken for a
  -- fraction.
  cases eq : m.fraction with
  | none =>
    exact (digits_takes whole ends.digit).andThen ((point_takes_nil ends.point).andThen
      ((digits_takes_nil ends.digit).andThen chain))
  | some digits =>
    rw [eq, Option.getD_some] at fraction
    have point : Part.digits.Takes m.whole
        ('.' :: (digits ++ ns.flatMap Literal.divisorText ++ rest)) := by
      apply digits_takes whole
      rintro c ⟨⟩
      rfl
    exact point.andThen ((point_takes _).andThen ((digits_takes fraction ends.digit).andThen chain))

/-- A literal is taken for the coefficient of a power. -/
lemma coefficient_takes_literal (l : Literal) (hl : Part.lead.Takes lead (l.text ++ rest))
    (h : EndsLiteral rest) : coefficient.Takes (lead ++ l.text) rest := by
  rw [Literal.text, ← l.numerator.text_mantissa] at hl ⊢
  rw [List.append_assoc] at hl
  exact coefficient_takes _ _ hl h

/-- A coefficient may be no more than what leads it. -/
lemma coefficient_takes_lead (hl : Part.lead.Takes lead rest) (h : EndsLiteral rest) :
    coefficient.Takes lead rest := by
  rw [← List.append_nil lead]
  exact coefficient_takes ⟨[], none, List.forall_mem_nil _⟩ [] hl h

/-- A literal is taken for a number. -/
lemma number_takes_literal (l : Literal) (hl : Part.lead.Takes lead (l.text ++ rest))
    (h : EndsLiteral rest) : number.Takes (lead ++ l.text) rest := by
  have ends := h.chain l.divisors
  have digits := digits_takes l.numerator.whole.isDigit (digit_fractionText l.numerator.fraction ends)
  have fraction := marked_takes_fraction l.numerator.fraction ends
  rw [← List.append_assoc] at digits
  rw [l.text_eq] at hl ⊢
  exact hl.andThen (digits.andThen (fraction.andThen (divisors_takes l.divisors h)))

end Part

/-! ## Reading a numeral -/

/-- A text without a separator is one piece. -/
lemma splitAtEach_of_not_mem {separator : Char} {cs : List Char} (h : separator ∉ cs) :
    splitAtEach separator cs = [cs] := by
  induction cs with
  | nil => rfl
  | cons c cs ih =>
    rw [List.mem_cons, not_or] at h
    rw [splitAtEach, if_neg (Ne.symm h.1), ih h.2]

/-- The first separator ends the first piece. -/
lemma splitAtEach_append_cons {separator : Char} {as : List Char} (h : separator ∉ as)
    (bs : List Char) :
    splitAtEach separator (as ++ separator :: bs) = as :: splitAtEach separator bs := by
  induction as with
  | nil => rw [List.nil_append, splitAtEach, if_pos rfl]
  | cons a as ih =>
    rw [List.mem_cons, not_or] at h
    rw [List.cons_append, splitAtEach, if_neg (Ne.symm h.1), ih h.2]

/-- A number without a sign is its magnitude. -/
lemma readFloat?_of_not_startsWithSign {cs : List Char} (h : ¬ StartsWithSign cs) :
    readFloat? cs = readMagnitude? cs := by
  unfold readFloat?
  split
  · exact (h (.inr rfl)).elim
  · exact (h (.inl rfl)).elim
  · rfl

/-- Zero with any number of places is zero. -/
lemma ofScientific_zero (places : Nat) :
    (OfScientific.ofScientific 0 true places : Float) = 0.0 := by
  have small : ∀ places ≤ 22, Float.ofScientific 0 true places = 0.0 := by decide +kernel
  by_cases h : places ≤ 22
  · exact small places h
  · have zero (e : Int) : Float.Model.UnpackedFloat.ofScientific .binary64 0 e = .zero .positive :=
      dif_pos rfl
    change Float.ofScientific 0 true places = 0.0
    rw [Float.ofScientific, dif_neg (by omega)]
    change Float.ofModel (Float.Model.pack (.ofScientific .binary64 0 _)) = 0.0
    rw [zero]
    decide +kernel

/-- Digits without a point are a whole number. -/
lemma scaleDecimal_whole (n digits : Nat) :
    scaleDecimal n digits 0 = OfScientific.ofScientific n false 0 := by
  unfold scaleDecimal
  by_cases zero : n = 0
  · subst zero
    rw [if_pos (by simp)]
    decide +kernel
  · rw [if_neg (by simp [zero]), if_neg (by decide)]
    rfl

/-- Digits with a point are scaled by their places. -/
lemma scaleDecimal_fraction {digits places : Nat} (n : Nat) (pos : 0 < places)
    (le : places ≤ digits) :
    scaleDecimal n digits (0 - places) = OfScientific.ofScientific n true places := by
  unfold scaleDecimal
  by_cases zero : n = 0
  · subst zero
    exact (ofScientific_zero places).symm
  · rw [if_neg (by simp [zero]; omega), if_neg (by omega), decide_eq_true (by omega),
      Int.zero_sub, Int.natAbs_neg, Int.natAbs_natCast]

namespace Mantissa

variable (m : Mantissa)

/-- A mantissa has digits and a point. -/
lemma mem_digits_or_point {m : Mantissa} {c : Char} (h : c ∈ m.text) :
    c ∈ m.digits ∨ c = '.' := by
  rw [text, List.mem_append] at h
  rcases h with whole | fraction
  · exact .inl (List.mem_append_left _ whole)
  · cases eq : m.fraction with
    | none => simp [eq, fractionText] at fraction
    | some digits =>
      rw [eq, fractionText, List.mem_cons] at fraction
      refine fraction.symm.imp (fun mem => ?_) id
      rw [Mantissa.digits, eq]
      exact List.mem_append_right _ mem

/-- Without digits there is at most the point. -/
lemma eq_point_of_mem_text (none : m.digits = []) {c : Char} (h : c ∈ m.text) : c = '.' := by
  rcases mem_digits_or_point h with digit | point
  · rw [none] at digit
    cases digit
  · exact point

/-- The digits of a mantissa stand in its text. -/
lemma mem_text_of_mem_digits {c : Char} (h : c ∈ m.digits) : c ∈ m.text := by
  rw [digits, List.mem_append] at h
  rw [text, List.mem_append]
  refine h.imp id fun fraction => ?_
  cases eq : m.fraction with
  | none => simp [eq] at fraction
  | some digits =>
    rw [eq, Option.getD_some] at fraction
    exact List.mem_cons_of_mem _ fraction

/-- Nothing else stands in it. -/
lemma not_mem_text {c : Char} (digit : c.isDigit = false) (point : c ≠ '.') : c ∉ m.text := by
  intro mem
  rcases mem_digits_or_point mem with mem | eq
  · rw [m.isDigit c mem] at digit
    cases digit
  · exact point eq

/-- A mantissa is cut at its point. -/
lemma cutDecimal_text : cutDecimal m.text = (m.whole, m.fraction.getD [], []) := by
  obtain ⟨whole, fraction⟩ := List.forall_mem_append.1 m.isDigit
  rw [cutDecimal, text]
  cases eq : m.fraction with
  | none =>
    simp [fractionText, List.takeWhile_eq_self_iff.2 whole, List.dropWhile_eq_nil_iff.2 whole]
  | some digits =>
    rw [eq, Option.getD_some] at fraction
    simp [fractionText, List.takeWhile_append_of_pos whole, List.dropWhile_append_of_pos whole,
      List.takeWhile_eq_self_iff.2 fraction, List.dropWhile_eq_nil_iff.2 fraction]

/-- A mantissa is none of the words that are read as a number. -/
lemma lower_text_ne (word : String)
    (letter : word.toList.any (fun c => !c.isDigit && c != '.') = true) :
    String.ofList (m.text.map Char.toLower) ≠ word := by
  have lower : m.text.map Char.toLower = m.text := by
    refine (List.map_congr_left fun c hc => ?_).trans (List.map_id _)
    rcases mem_digits_or_point hc with digit | rfl
    · exact toLower_of_isDigit (m.isDigit c digit)
    · decide
  rintro rfl
  rw [lower, String.toList_ofList, List.any_eq_true] at letter
  obtain ⟨c, hc, other⟩ := letter
  rcases mem_digits_or_point hc with digit | rfl
  · simp [m.isDigit c digit] at other
  · simp at other

/-- A mantissa is read as its value, if it has a digit. -/
lemma readMagnitude?_text :
    readMagnitude? m.text = if m.digits = [] then none else some m.value := by
  have inf := m.lower_text_ne "inf" (by decide)
  have infinity := m.lower_text_ne "infinity" (by decide)
  have nan := m.lower_text_ne "nan" (by decide)
  simp only [readMagnitude?, inf, infinity, nan, decide_false, Bool.or_self, Bool.false_eq_true,
    if_false, m.cutDecimal_text, List.isEmpty_iff, readExponent?, Option.map_some]
  rfl

/-- So it is with a sign before it. -/
lemma readFloat?_text (sign : LeadSign) : readFloat? (sign.text ++ m.text) =
    if m.digits = [] then none else some (sign.apply m.value) := by
  have read := m.readMagnitude?_text
  cases sign with
  | absent =>
    have unsigned : ¬ StartsWithSign m.text := by
      rintro (plus | minus)
      · exact m.not_mem_text (by decide) (by decide) (List.mem_of_head? plus)
      · exact m.not_mem_text (by decide) (by decide) (List.mem_of_head? minus)
    exact (readFloat?_of_not_startsWithSign unsigned).trans read
  | plus => exact read
  | minus =>
    refine (congrArg (Option.map _) read).trans ?_
    split <;> rfl

/-- A mantissa has no blank. -/
lemma compact_text : compact m.text = m.text := by
  apply compact_eq_self
  intro c hc
  rcases mem_digits_or_point hc with digit | rfl
  · exact isBlank_of_isDigit (m.isDigit c digit)
  · decide

end Mantissa

namespace Numeral

variable (n : Numeral)

/-- A numeral has the value of its mantissa. -/
lemma value_mantissa : n.mantissa.value = n.value := by
  obtain ⟨whole, _ | fraction⟩ := n
  · show scaleDecimal (natOfDigits (whole.chars ++ [])) _ 0 = _
    rw [List.append_nil]
    exact scaleDecimal_whole _ _
  · apply scaleDecimal_fraction _ (List.length_pos_iff.2 fraction.ne_nil)
    rw [Mantissa.digits, List.length_append]
    exact Nat.le_add_left ..

/-- A numeral is read as its value, with its sign. -/
lemma readFloat?_text (sign : LeadSign) :
    readFloat? (sign.text ++ n.text) = some (sign.apply n.value) := by
  have digits : n.mantissa.digits ≠ [] := List.append_ne_nil_of_left_ne_nil n.whole.ne_nil _
  rw [← n.text_mantissa, n.mantissa.readFloat?_text, if_neg digits, value_mantissa]

end Numeral

/-! ## Reading a literal -/

namespace Numeral

/-- The characters of a numeral are digits and points. -/
lemma isDigit_or_point_of_mem_text {n : Numeral} {c : Char} (h : c ∈ n.text) :
    c.isDigit = true ∨ c = '.' :=
  (Mantissa.mem_digits_or_point (n.text_mantissa.symm ▸ h)).imp (n.mantissa.isDigit c) id

/-- A numeral has no blank. -/
lemma isBlank_of_mem_text {n : Numeral} {c : Char} (h : c ∈ n.text) : isBlank c = false := by
  rcases isDigit_or_point_of_mem_text h with digit | rfl
  · exact isBlank_of_isDigit digit
  · decide

/-- A numeral has no slash. -/
lemma slash_not_mem_text (n : Numeral) : '/' ∉ n.text := by
  intro h
  rcases isDigit_or_point_of_mem_text h with digit | point
  · cases digit
  · cases point

end Numeral

/-- The text of a sign has nothing but signs. -/
lemma LeadSign.not_mem_text_of_ne {c : Char} (plus : c ≠ '+') (minus : c ≠ '-')
    (sign : LeadSign) : c ∉ sign.text := by
  rcases sign.text_cases with h | h | h <;> simp [h, plus, minus]

/-- A sign that is written comes first. -/
lemma LeadSign.startsWithSign_text {sign : LeadSign} (h : sign ≠ .absent) (rest : List Char) :
    StartsWithSign (sign.text ++ rest) := by
  cases sign with
  | absent => exact absurd rfl h
  | plus => exact .inl rfl
  | minus => exact .inr rfl

/-- A sign has no blank. -/
lemma LeadSign.compact_text (sign : LeadSign) : compact sign.text = sign.text := by
  cases sign <;> decide

namespace Literal

/-- Divisors have no blank. -/
lemma compact_chain (ns : List Numeral) :
    compact (ns.flatMap divisorText) = ns.flatMap divisorText := by
  apply compact_eq_self
  intro c hc
  obtain ⟨n, _, hc⟩ := List.mem_flatMap.1 hc
  rcases List.mem_cons.1 hc with rfl | hc
  · decide
  · exact Numeral.isBlank_of_mem_text hc

/-- A literal has no blank. -/
lemma compact_text (l : Literal) : compact l.text = l.text := by
  rw [text, compact_append, compact_chain, compact_eq_self fun _ => Numeral.isBlank_of_mem_text]

/-- The pieces between the slashes are the numerals. -/
lemma splitAtEach_chain {first : List Char} (h : '/' ∉ first) (ns : List Numeral) :
    splitAtEach '/' (first ++ ns.flatMap divisorText) = first :: ns.map Numeral.text := by
  induction ns generalizing first with
  | nil => rw [List.flatMap_nil, List.append_nil, splitAtEach_of_not_mem h, List.map_nil]
  | cons n ns ih =>
    rw [List.flatMap_cons, divisorText, List.cons_append, splitAtEach_append_cons h,
      ih n.slash_not_mem_text, List.map_cons]

/-- Each numeral is read as its value. -/
lemma mapM_readFloat?_text (ns : List Numeral) :
    (ns.map Numeral.text).mapM readFloat? = some (ns.map Numeral.value) := by
  induction ns with
  | nil => rfl
  | cons n ns ih =>
    have read : readFloat? n.text = some n.value := n.readFloat?_text .absent
    rw [List.map_cons, List.mapM_cons, read, ih]
    rfl

/-- A text is read as a literal if it is one after its blanks are removed. -/
lemma readFraction_of_compact {cs : List Char} {sign : LeadSign} {l : Literal}
    (h : compact cs = sign.text ++ l.text) : readFraction cs = .ok (l.value sign) := by
  have slash : '/' ∉ sign.text ++ l.numerator.text := by
    rw [List.mem_append, not_or]
    exact ⟨sign.not_mem_text_of_ne (by decide) (by decide), l.numerator.slash_not_mem_text⟩
  rw [readFraction, h, text, ← List.append_assoc, splitAtEach_chain slash, List.mapM_cons,
    l.numerator.readFloat?_text sign, mapM_readFloat?_text]
  exact congrArg Except.ok List.foldl_map

/-- A literal is read as its numerator divided by its divisors, from left to right. -/
lemma readFraction_text (l : Literal) (sign : LeadSign) :
    readFraction (sign.text ++ l.text) = .ok (l.value sign) := by
  apply readFraction_of_compact
  rw [compact_append, sign.compact_text, l.compact_text]

/-- A coefficient that is a literal apart from blanks is read as that. -/
lemma readCoefficient_of_compact {cs : List Char} {sign : LeadSign} {l : Literal}
    (h : compact cs = sign.text ++ l.text) :
    WrittenTerm.readCoefficient cs = .ok (l.value sign) := by
  have read := l.readFraction_text sign
  obtain ⟨c, tail, text, digit⟩ := l.exists_text_eq_cons []
  rw [List.append_nil] at text
  rw [text] at h read
  -- A text with a digit is none of the texts that stand for one.
  rw [WrittenTerm.readCoefficient, h]
  cases sign with
  | absent =>
    split
    · next eq => cases eq
    · next eq =>
      cases eq
      cases digit
    · next eq =>
      cases eq
      cases digit
    · exact read
  | plus => exact read
  | minus => exact read

end Literal

/-! ## Reading an exponent -/

/-- Digits whose number is not too large are read as an integer of 32 bits. -/
lemma readInt32?_of_readNat? {cs digits : List Char} {n : Nat}
    (h : readInt? cs = (readNat? digits).map Int.ofNat) (hn : readNat? digits = some n)
    (le : n ≤ maxExponent) : readInt32? cs = some (n : Int) := by
  rw [hn] at h
  unfold maxExponent at le
  rw [readInt32?, readIntWithin?, h, Option.map_some, Option.filter_some, if_pos]
  · rfl
  · simp only [Bool.and_eq_true, decide_eq_true_eq, Int.ofNat_eq_natCast]
    omega

namespace Digits

variable (d : Digits)

/-- Digits are read as their number. -/
lemma readNat?_chars : readNat? d.chars = some (natOfDigits d.chars) :=
  readNat?_eq_some_iff.2 ⟨d.ne_nil, d.isDigit, rfl⟩

/-- Digits without a sign are read as their number, if it is not too large. -/
lemma readInt32?_chars (le : natOfDigits d.chars ≤ maxExponent) :
    readInt32? d.chars = some (natOfDigits d.chars : Int) := by
  obtain ⟨c, tail, text, digit⟩ := exists_digit_cons d.ne_nil d.isDigit []
  rw [List.append_nil] at text
  have unsigned : ¬ StartsWithSign d.chars := text ▸ not_startsWithSign_of_isDigit digit tail
  exact readInt32?_of_readNat?
    (readInt?_eq_readNat? (fun h => unsigned (.inr h)) fun h => unsigned (.inl h))
    d.readNat?_chars le

end Digits

end PolySurvey
