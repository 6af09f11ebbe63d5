import PolySurvey.Proofs.Term.Dense
import PolySurvey.Proofs.Term.Expression
import PolySurvey.Proofs.Term.Fault

/-!
# Numbers with and without the variable

Before the variable a number may have its point anywhere among its digits. Alone it must begin with a
digit, and its point must have a digit after it. A number that is not so is still read: the point is
passed over, with the sign before it or the slash after it, and what is left is read as a number of its
own. So a number denotes the same with and without the variable unless its point stands at the front,
or between a digit and a slash.
-/

namespace PolySurvey

open Text Number

/-! ## Texts without the variable -/

namespace WrittenTerm

variable {cs lead rest : List Char}

/-- Where no `x` comes, no power is read. -/
lemma power?_eq_none_of_not_mem (h : 'x' ∉ cs) : power? cs = none := by
  unfold power?
  split
  · next rest eq =>
    have mem : 'x' ∈ (Part.coefficient cs).2 := eq ▸ List.mem_cons_self ..
    exact absurd (Part.lossless_coefficient cs ▸ List.mem_append_right _ mem) h
  · rfl

/-- Without an `x`, and without a digit after the lead, there is no term at the front. -/
lemma cut?_eq_none_of_not_mem (x : 'x' ∉ lead ++ rest) (hl : Part.lead.Takes lead rest)
    (digit : ∀ c ∈ rest.head?, c.isDigit = false) : cut? (lead ++ rest) = none := by
  rw [cut?, power?_eq_none_of_not_mem x, Option.none_or, constant?_eq_none hl digit]

end WrittenTerm

section

variable {cs : List Char} (sign : LeadSign)

/-- A point that no digit stands before, and a slash likewise, belongs to no number. -/
lemma readTerms_mark {c : Char} (mark : c = '.' ∨ c = '/') (x : 'x' ∉ cs) :
    readTerms (c :: cs) = readTerms cs := by
  have mem : 'x' ∉ [] ++ c :: cs := by rcases mark with rfl | rfl <;> simpa using x
  have lead : Part.lead.Takes [] (c :: cs) := by rcases mark with rfl | rfl <;> rfl
  have digit : ∀ d ∈ (c :: cs).head?, d.isDigit = false := by
    rcases mark with rfl | rfl <;> rintro d ⟨⟩ <;> rfl
  have cut := WrittenTerm.cut?_eq_none_of_not_mem mem lead digit
  exact readTerms_of_cut?_eq_none cut

/-- A sign and a point at the front are passed over, if no `x` comes. -/
lemma readTerms_sign_point (x : 'x' ∉ cs) : readTerms (sign.text ++ '.' :: cs) = readTerms cs := by
  have mem : 'x' ∉ sign.text ++ '.' :: cs := by
    rw [List.mem_append, List.mem_cons, not_or, not_or]
    exact ⟨sign.not_mem_text_of_ne (by decide) (by decide), by decide, x⟩
  have lead := Part.lead_takes_sign sign (.inr rfl) cs
  have digit : ∀ d ∈ ('.' :: cs).head?, d.isDigit = false := by
    rintro d ⟨⟩
    rfl
  have cut := WrittenTerm.cut?_eq_none_of_not_mem mem lead digit
  have point := readTerms_mark (.inl rfl) x
  cases sign with
  | absent => exact point
  | plus => exact (readTerms_of_cut?_eq_none cut).trans point
  | minus => exact (readTerms_of_cut?_eq_none cut).trans point

/-- A mark without a digit after it is not taken. -/
lemma Part.marked_takes_nil_of_digit {mark : Char} (digit : ∀ c ∈ cs.head?, c.isDigit = false) :
    (Part.marked mark).Takes [] (mark :: cs) := by
  have digits := Part.digits_takes_nil digit
  unfold Part.Takes at digits ⊢
  rw [List.nil_append] at digits ⊢
  simp [Part.marked, digits]

/-- Digits are cut out without a point that has no digit after it. -/
lemma cut?_digits_point (whole : Digits) (x : 'x' ∉ cs)
    (digit : ∀ c ∈ cs.head?, c.isDigit = false) :
    WrittenTerm.cut? (sign.text ++ (whole.chars ++ '.' :: cs)) =
      some (.constant (sign.text ++ whole.chars), '.' :: cs) := by
  have mem : 'x' ∉ sign.text ++ (whole.chars ++ '.' :: cs) := by
    rw [List.mem_append, List.mem_append, List.mem_cons, not_or, not_or, not_or]
    refine ⟨sign.not_mem_text_of_ne (by decide) (by decide), fun mem => ?_, by decide, x⟩
    cases whole.isDigit 'x' mem
  have lead : Part.lead.Takes sign.text (whole.chars ++ '.' :: cs) := by
    obtain ⟨c, tail, text, digit⟩ := exists_digit_cons whole.ne_nil whole.isDigit ('.' :: cs)
    exact text ▸ Part.lead_takes_sign sign (.inl digit) tail
  have digits : Part.digits.Takes whole.chars ('.' :: cs) := by
    apply Part.digits_takes whole.isDigit
    rintro c ⟨⟩
    rfl
  have divisors : Part.Takes Part.divisors [] ('.' :: cs) := Part.divisors_takes_nil (by rintro ⟨⟩)
  have point := digits.andThen ((Part.marked_takes_nil_of_digit digit).andThen divisors)
  rw [List.append_nil, List.append_nil] at point
  have number : Part.number.Takes (sign.text ++ whole.chars) ('.' :: cs) := lead.andThen point
  unfold Part.Takes at lead digits number
  rw [WrittenTerm.cut?, WrittenTerm.power?_eq_none_of_not_mem mem, Option.none_or,
    WrittenTerm.constant?, lead, digits, if_neg whole.ne_nil, ← List.append_assoc, number]

end

/-! ## A number of its own -/

/-- The literal with its sign, as it stands before the variable. -/
def Literal.factor (sign : LeadSign) (l : Literal) : Factor :=
  ⟨sign, l.numerator.mantissa, l.divisors⟩

namespace Literal

variable (sign : LeadSign) (l : Literal)

/-- The text of a literal with a sign before it. -/
lemma text_factor : (l.factor sign).text = sign.text ++ l.text := by
  rw [Factor.text, Factor.unsigned, factor, l.numerator.text_mantissa, text]

/-- The value of a literal with a sign before it. -/
lemma value_factor : (l.factor sign).value = l.value sign := by
  rw [Factor.value, factor, l.numerator.value_mantissa, value]

/-- A literal is read as one term, a constant. -/
lemma readTerms_eq : readTerms l.text = .ok [⟨l.value .absent, 0⟩] :=
  Unsigned.readTerms_append_text .absent (.constant l)

/-- No `x` stands in a literal. -/
lemma x_not_mem_text : 'x' ∉ l.text := by
  have := (l.factor .absent).x_not_mem_text
  rwa [text_factor] at this

end Literal

/-- A mantissa with a digit before the point, and one after it, is a numeral. -/
lemma Mantissa.exists_numeral {m : Mantissa} (whole : m.whole ≠ [])
    (fraction : m.fraction ≠ some []) : ∃ n : Numeral, n.mantissa = m := by
  obtain ⟨digits, places, isDigit⟩ := m
  obtain ⟨isWhole, isFraction⟩ := List.forall_mem_append.1 isDigit
  cases places with
  | none => exact ⟨⟨⟨digits, whole, isWhole⟩, none⟩, rfl⟩
  | some places =>
    have nonempty : places ≠ [] := fun eq => fraction (congrArg some eq)
    exact ⟨⟨⟨digits, whole, isWhole⟩, some ⟨places, nonempty, isFraction⟩⟩, rfl⟩

namespace Factor

/-- What is read of a number that no variable follows. Without a digit before the point, the sign and
the point do not count. With a point between a digit and a slash, only the divisors count. -/
def alone (f : Factor) : Float :=
  match f.mantissa.whole, f.mantissa.fraction, f.divisors with
  | [], some digits, ns =>
    ns.foldl (fun x n => x / n.value) (OfScientific.ofScientific (natOfDigits digits) false 0)
  | _ :: _, some [], n :: ns => ns.foldl (fun x n => x / n.value) n.value
  | _, _, _ => f.value

variable {f : Factor}

/-- With a digit before the point, and no divisor right behind it, a factor denotes alone what it
denotes before a power. -/
lemma alone_eq_value (whole : f.mantissa.whole ≠ [])
    (fraction : f.mantissa.fraction = some [] → f.divisors = []) : f.alone = f.value := by
  unfold alone
  split
  · next none _ => exact absurd none whole
  · next point divisors => exact nomatch divisors.symm.trans (fraction point)
  · rfl

/-- The sign and the point at the front are passed over. -/
lemma readTerms_point_front (sign : LeadSign) (d : Digits) (ns : List Numeral) :
    readTerms (⟨sign, ⟨[], some d.chars, d.isDigit⟩, ns⟩ : Factor).text =
      .ok [⟨(⟨⟨d, none⟩, ns⟩ : Literal).value .absent, 0⟩] := by
  let l : Literal := ⟨⟨d, none⟩, ns⟩
  have text : (⟨sign, ⟨[], some d.chars, d.isDigit⟩, ns⟩ : Factor).text =
      sign.text ++ '.' :: l.text := by
    simp [l, text, unsigned, Mantissa.text, Mantissa.fractionText, Literal.text, Numeral.text,
      Numeral.fractionText]
  rw [text, readTerms_sign_point sign l.x_not_mem_text, l.readTerms_eq]

/-- What is left after the point at the back, without the slash. -/
def afterPoint : List Numeral → List Term
  | [] => []
  | n :: ns => [⟨(⟨n, ns⟩ : Literal).value .absent, 0⟩]

/-- Behind a point, the slash is passed over, and the divisors are read as a literal of their own. -/
lemma readTerms_point_chain (ns : List Numeral) :
    readTerms ('.' :: ns.flatMap Literal.divisorText) = .ok (afterPoint ns) := by
  cases ns with
  | nil => exact (readTerms_mark (.inl rfl) List.not_mem_nil).trans readTerms_nil
  | cons n ns =>
    let l : Literal := ⟨n, ns⟩
    have x := l.x_not_mem_text
    have slash : 'x' ∉ '/' :: l.text := by simpa using x
    have text : (n :: ns).flatMap Literal.divisorText = '/' :: l.text := rfl
    rw [text, readTerms_mark (.inl rfl) slash, readTerms_mark (.inr rfl) x, l.readTerms_eq,
      afterPoint]

/-- The point at the back ends the number, and the divisors are read after it. -/
lemma readTerms_point_back (sign : LeadSign) (d : Digits) (ns : List Numeral)
    (isDigit : ∀ c ∈ d.chars ++ [], c.isDigit = true) :
    readTerms (⟨sign, ⟨d.chars, some [], isDigit⟩, ns⟩ : Factor).text =
      .ok (⟨(⟨⟨d, none⟩, []⟩ : Literal).value sign, 0⟩ :: afterPoint ns) := by
  let l : Literal := ⟨⟨d, none⟩, []⟩
  have text : (⟨sign, ⟨d.chars, some [], isDigit⟩, ns⟩ : Factor).text =
      sign.text ++ (d.chars ++ '.' :: ns.flatMap Literal.divisorText) := by
    simp [text, unsigned, Mantissa.text, Mantissa.fractionText]
  have digits : l.text = d.chars := by
    simp [l, Literal.text, Numeral.text, Numeral.fractionText]
  have x : 'x' ∉ ns.flatMap Literal.divisorText := by
    have whole := (⟨sign, ⟨d.chars, some [], isDigit⟩, ns⟩ : Factor).x_not_mem_text
    rw [text, List.mem_append, List.mem_append, List.mem_cons, not_or, not_or, not_or] at whole
    exact whole.2.2.2
  -- What follows the point is a divisor or nothing, so the number does not go on.
  have digit : ∀ c ∈ (ns.flatMap Literal.divisorText).head?, c.isDigit = false := by
    cases ns with
    | nil => rintro c ⟨⟩
    | cons n ns =>
      rintro c ⟨⟩
      rfl
  have first : (WrittenTerm.constant (sign.text ++ d.chars)).read = .ok ⟨l.value sign, 0⟩ := by
    rw [WrittenTerm.read, ← digits, l.readFraction_text sign]
    rfl
  rw [text]
  exact readTerms_of_cut? (cut?_digits_point sign d x digit) first (readTerms_point_chain ns)

/-- A number of its own is read as constants, and the last of them counts. -/
lemma exists_readTerms_text (digit : f.mantissa.digits ≠ []) :
    ∃ terms, readTerms f.text = .ok terms ∧ (∀ term ∈ terms, term.exponent = 0) ∧
      MergePolicy.combine .overwrite (terms.map Term.coefficient) = f.alone := by
  have single (x : Float) : ∀ term ∈ [(⟨x, 0⟩ : Term)], term.exponent = 0 :=
    List.forall_mem_singleton.2 rfl
  -- The number is a literal, or its point stands at the front or at the back.
  by_cases numeral : f.mantissa.whole ≠ [] ∧ f.mantissa.fraction ≠ some []
  · obtain ⟨sign, mantissa, ns⟩ := f
    obtain ⟨whole, fraction⟩ := numeral
    obtain ⟨n, rfl⟩ := Mantissa.exists_numeral whole fraction
    let l : Literal := ⟨n, ns⟩
    rw [alone_eq_value whole fun point => absurd point fraction]
    refine ⟨[⟨l.value sign, 0⟩], ?_, single _, (l.value_factor sign).symm⟩
    exact (congrArg readTerms (l.text_factor sign)).trans
      (Unsigned.readTerms_append_text sign (.constant l))
  · obtain ⟨sign, ⟨whole, fraction, isDigit⟩, ns⟩ := f
    obtain ⟨isWhole, isFraction⟩ := List.forall_mem_append.1 isDigit
    cases whole with
    | nil =>
      cases fraction with
      | none => exact absurd rfl digit
      | some digits =>
        exact ⟨_, readTerms_point_front sign ⟨digits, digit, isFraction⟩ ns, single _, rfl⟩
    | cons c cs =>
      obtain rfl : fraction = some [] := by
        by_contra some
        exact numeral ⟨List.cons_ne_nil c cs, some⟩
      let d : Digits := ⟨c :: cs, List.cons_ne_nil c cs, isWhole⟩
      refine ⟨_, readTerms_point_back sign d ns isDigit, ?_, ?_⟩
      · cases ns with
        | nil => exact single _
        | cons n ns => exact List.forall_mem_cons.2 ⟨rfl, single _⟩
      · cases ns with
        | nil => exact (Literal.value_factor sign ⟨⟨d, none⟩, []⟩).symm
        | cons n ns => rfl

end Factor

/-! ## With the variable -/

/-- A mantissa with a digit begins with a digit or a point. -/
lemma Mantissa.exists_text_eq_cons {m : Mantissa} (digit : m.digits ≠ []) (rest : List Char) :
    ∃ c tail, m.text ++ rest = c :: tail ∧ (c.isDigit = true ∨ c = '.') := by
  obtain ⟨d, mem⟩ := List.exists_mem_of_ne_nil _ digit
  cases eq : m.text with
  | nil => exact absurd (m.mem_text_of_mem_digits mem) (eq ▸ List.not_mem_nil)
  | cons c tail =>
    refine ⟨c, tail ++ rest, rfl, ?_⟩
    exact (mem_digits_or_point (eq ▸ List.mem_cons_self ..)).imp (m.isDigit c) id

namespace Factor

variable {f : Factor}

/-- Before the variable the number is read as it is written. -/
lemma readTerms_text_x (digit : f.mantissa.digits ≠ []) :
    readTerms (f.text ++ ['x']) = .ok [⟨f.value, 1⟩] := by
  obtain ⟨c, tail, head, number⟩ := Mantissa.exists_text_eq_cons digit
    (f.divisors.flatMap Literal.divisorText ++ ['x'])
  have lead := Part.lead_takes_sign f.sign number tail
  rw [← head] at lead
  have taken := Part.coefficient_takes f.mantissa f.divisors lead (EndsLiteral.of_x [])
  have cut : WrittenTerm.cut? (f.text ++ ['x']) = some (.power f.text none, []) := by
    unfold Part.Takes at taken
    rw [WrittenTerm.cut?, WrittenTerm.power?, text, unsigned, taken]
    rfl
  have unsigned : f.unsigned ≠ [] := by
    obtain ⟨c, tail, head, _⟩ := Mantissa.exists_text_eq_cons digit
      (f.divisors.flatMap Literal.divisorText)
    rw [Factor.unsigned, head]
    exact List.cons_ne_nil c tail
  have coefficient : WrittenTerm.readCoefficient f.text = .ok f.value := by
    rw [readCoefficient_eq_readFraction f.compact_text unsigned, f.readFraction_text, if_neg digit]
  have read : (WrittenTerm.power f.text none).read = .ok ⟨f.value, 1⟩ := by
    rw [WrittenTerm.read, coefficient]
    rfl
  exact readTerms_of_cut? cut read readTerms_nil

end Factor

/-! ## Both readings -/

/-- A number denotes the same with and without the variable: where the variable with it is all that is
read, the number alone is read as a constant, and the constant is the coefficient. -/
def DenotesAlike (literal : List Char) : Prop :=
  ∀ p x, Polynomial.parse (String.ofList (literal ++ ['x'])) .overwrite = .ok p →
    p.coefficients = [0.0, x] →
      ∃ q, Polynomial.parse (String.ofList literal) .overwrite = .ok q ∧ q.coefficients = [x]

namespace Factor

variable {f : Factor}

/-- Before an `x`, a factor is the coefficient of a power. -/
lemma exists_parse_text_x (digit : f.mantissa.digits ≠ []) :
    ∃ p, Polynomial.parse (String.ofList (f.text ++ ['x'])) .overwrite = .ok p ∧
      p.coefficients = [0.0, f.value] :=
  Polynomial.exists_parse_of_readTerms (readTerms_text_x digit) .overwrite

/-- Alone, it is a constant. -/
lemma exists_parse_text (digit : f.mantissa.digits ≠ []) :
    ∃ q, Polynomial.parse (String.ofList f.text) .overwrite = .ok q ∧ q.coefficients = [f.alone] := by
  obtain ⟨terms, read, constant, last⟩ := exists_readTerms_text digit
  obtain ⟨q, parse, dense⟩ := Polynomial.exists_parse_of_readTerms read .overwrite
  rw [MergedTerms.dense_eq_singleton constant, last] at dense
  exact ⟨q, parse, dense⟩

/-- A number that has a digit can be read with and without the variable. With it, the coefficient is
the number as it is written. Alone, it is one constant, and the same number just when what is read of
it is. This is so if a digit stands before the point, and the point does not stand before a slash. -/
theorem denotesAlike_iff (f : Factor) (digit : f.mantissa.digits ≠ []) :
    (∃ p, Polynomial.parse (String.ofList (f.text ++ ['x'])) .overwrite = .ok p ∧
        p.coefficients = [0.0, f.value]) ∧
      (∃ q, Polynomial.parse (String.ofList f.text) .overwrite = .ok q ∧
        q.coefficients = [f.alone]) ∧
      (DenotesAlike f.text ↔ f.alone = f.value) ∧
      (f.mantissa.whole ≠ [] → (f.mantissa.fraction = some [] → f.divisors = []) →
        DenotesAlike f.text) := by
  obtain ⟨p, parse, coefficients⟩ := exists_parse_text_x digit
  obtain ⟨q, parse', coefficients'⟩ := exists_parse_text digit
  -- Both texts are read, so what they denote alike is the two results.
  have iff : DenotesAlike f.text ↔ f.alone = f.value := by
    constructor
    · intro alike
      obtain ⟨r, read, eq⟩ := alike p f.value parse coefficients
      obtain rfl := Except.ok.inj (parse'.symm.trans read)
      exact (List.cons.inj (coefficients'.symm.trans eq)).1
    · intro eq r x read only
      obtain rfl := Except.ok.inj (parse.symm.trans read)
      obtain rfl : f.value = x := by simpa using coefficients.symm.trans only
      exact ⟨q, parse', eq ▸ coefficients'⟩
  exact ⟨⟨p, parse, coefficients⟩, ⟨q, parse', coefficients'⟩, iff,
    fun whole fraction => iff.2 (alone_eq_value whole fraction)⟩

/-- A point at the front loses the sign and the fraction; a point inside changes nothing. -/
theorem denotesAlike_iff_points :
    let front : Factor := ⟨.minus, ⟨[], some ['5'], List.forall_mem_singleton.2 rfl⟩, []⟩
    let inside : Factor := ⟨.absent, ⟨['2'], some ['5'], by simp⟩, []⟩
    front.mantissa.digits ≠ [] ∧ inside.mantissa.digits ≠ [] ∧
      (∃ p, Polynomial.parse (String.ofList (front.text ++ ['x'])) .overwrite = .ok p ∧
        p.coefficients = [0.0, -0.5]) ∧
      (∃ q, Polynomial.parse (String.ofList front.text) .overwrite = .ok q ∧
        q.coefficients = [5.0]) ∧
      ¬ DenotesAlike front.text ∧
      inside.mantissa.whole ≠ [] ∧ (inside.mantissa.fraction = some [] → inside.divisors = []) ∧
      DenotesAlike inside.text := by
  intro front inside
  have digit : front.mantissa.digits ≠ [] := by decide
  have digit' : inside.mantissa.digits ≠ [] := by decide
  have whole : inside.mantissa.whole ≠ [] := by decide
  have fraction : inside.mantissa.fraction = some [] → inside.divisors = [] := fun _ => rfl
  have value : front.value = -0.5 := by decide +kernel
  have alone : front.alone = 5.0 := by decide +kernel
  obtain ⟨withX, number, iff, _⟩ := denotesAlike_iff front digit
  rw [value] at withX iff
  rw [alone] at number iff
  refine ⟨digit, digit', withX, number, fun alike => ?_, whole, fraction, ?_⟩
  · exact absurd (iff.1 alike) (by decide)
  · exact (denotesAlike_iff inside digit').2.2.2 whole fraction

/-- With the variable, half of it is read; alone, five is read. -/
theorem not_denotesAlike_point_front :
    let f : Factor := ⟨.absent, ⟨[], some ['5'], List.forall_mem_singleton.2 rfl⟩, []⟩
    f.text = ['.', '5'] ∧ f.mantissa.digits ≠ [] ∧ ¬ DenotesAlike f.text := by
  intro f
  have half : readTerms (f.text ++ ['x']) = .ok [⟨0.5, 1⟩] := by decide +kernel
  have five : readTerms f.text = .ok [⟨5.0, 0⟩] := by decide +kernel
  refine ⟨rfl, by decide, fun alike => ?_⟩
  obtain ⟨p, parse, coefficients⟩ := Polynomial.exists_parse_of_readTerms half .overwrite
  obtain ⟨q, parse', coefficients'⟩ := Polynomial.exists_parse_of_readTerms five .overwrite
  obtain ⟨r, read, eq⟩ := alike p 0.5 parse coefficients
  obtain rfl := Except.ok.inj (parse'.symm.trans read)
  have same : [5.0] = [0.5] := coefficients'.symm.trans eq
  exact absurd same (by decide)

end Factor

end PolySurvey
