import PolySurvey.Polynomial.Basic
import PolySurvey.Proofs.Term.Merging
import PolySurvey.Proofs.Term.Search

/-!
# Terms that cannot be read

What stands in a written term is not always a number: a coefficient may have a point or a slash but no
digit before the first slash, and an exponent may be out of range. Everything else in a written term
is well formed, so these are the only faults. An expression has terms just when none of its written
terms has a fault, and otherwise the leftmost fault is reported.
-/

namespace PolySurvey

open Text Number

/-! ## Faults -/

/-- The coefficient, written without blanks, has a point or a slash, but no digit before a slash. -/
def Numberless (text : List Char) : Prop :=
  (∀ c ∈ text.takeWhile (· != '/'), c.isDigit = false) ∧ ('.' ∈ text ∨ '/' ∈ text)

instance (text : List Char) : Decidable (Numberless text) :=
  @instDecidableAnd _ _ (List.decidableBAll _ _) inferInstance

/-- The number that an exponent denotes: digits, perhaps with a sign before them. -/
def exponentValue : List Char → Int
  | '-' :: digits => -natOfDigits digits
  | '+' :: digits => natOfDigits digits
  | digits => natOfDigits digits

/-- What an integer of 32 bits can hold. -/
def FitsInt32 (n : Int) : Prop := -2 ^ 31 ≤ n ∧ n ≤ 2 ^ 31 - 1

instance (n : Int) : Decidable (FitsInt32 n) := inferInstanceAs (Decidable (_ ∧ _))

/-- The fault of a written term, as it is reported. Of several faults a term has the first: a
coefficient that is no number, an exponent that is no integer of 32 bits, and an exponent out of
range. A constant has none. -/
inductive WrittenTerm.Fault : WrittenTerm → TermError → Prop where
  | numberless {coefficient : List Char} {exponent : Option (List Char)}
      (number : Numberless (compact coefficient)) :
      Fault (.power coefficient exponent) (.malformedNumber (String.ofList (compact coefficient)))
  | wide {coefficient exponent : List Char} (number : ¬ Numberless (compact coefficient))
      (range : ¬ FitsInt32 (exponentValue exponent)) :
      Fault (.power coefficient (some exponent)) (.malformedNumber (String.ofList exponent))
  | negative {coefficient exponent : List Char} (number : ¬ Numberless (compact coefficient))
      (range : FitsInt32 (exponentValue exponent)) (negative : exponentValue exponent < 0) :
      Fault (.power coefficient (some exponent))
        (.negativeExponent (String.ofList (power coefficient (some exponent)).text)
          (exponentValue exponent))
  | tooLarge {coefficient exponent : List Char} (number : ¬ Numberless (compact coefficient))
      (range : FitsInt32 (exponentValue exponent)) (large : maxExponent < exponentValue exponent) :
      Fault (.power coefficient (some exponent))
        (.exponentTooLarge (String.ofList (power coefficient (some exponent)).text)
          (exponentValue exponent))

/-! ## What stands in a written term -/

/-- What may stand before the variable, without its blanks. -/
structure Factor where
  sign : LeadSign
  mantissa : Mantissa
  divisors : List Numeral

namespace Factor

/-- How a factor is written without its sign. -/
def unsigned (f : Factor) : List Char :=
  f.mantissa.text ++ f.divisors.flatMap Literal.divisorText

/-- How a factor is written. -/
def text (f : Factor) : List Char := f.sign.text ++ f.unsigned

end Factor

/-- A written term whose parts are what the pattern of a term lets through. -/
inductive WrittenTerm.Shaped : WrittenTerm → Prop where
  | power {coefficient : List Char} {exponent : Option (List Char)} (factor : Factor)
      (text : compact coefficient = factor.text)
      (digits : ∀ e ∈ exponent, ∃ (sign : LeadSign) (d : Digits), e = sign.text ++ d.chars) :
      Shaped (.power coefficient exponent)
  | constant {literal : List Char} (sign : LeadSign) (l : Literal)
      (text : compact literal = sign.text ++ l.text) : Shaped (.constant literal)

namespace Pattern

variable {cs : List Char} {f : Found}

/-- The first way of a pattern is one of its ways. -/
lemma mem_ways_of_first? {p : Pattern} (h : p.first? cs = some f) : f ∈ p.ways cs :=
  List.mem_of_mem_head? h

/-- What the pattern of a sign takes is a sign. -/
lemma exists_sign_of_mem_ways (h : f ∈ sign.ways cs) : ∃ s : LeadSign, f.taken = s.text := by
  rcases mem_ways_optional.1 h with h | rfl
  · obtain ⟨c, rest, rfl, hc, rfl⟩ := mem_ways_char.1 h
    rcases Bool.or_eq_true_iff.1 hc with minus | plus
    · exact ⟨.minus, congrArg ([·]) (beq_iff_eq.1 minus)⟩
    · exact ⟨.plus, congrArg ([·]) (beq_iff_eq.1 plus)⟩
  · exact ⟨.absent, rfl⟩

/-- What the pattern of a lead takes is a sign, apart from blanks. -/
lemma exists_lead_of_mem_ways (h : f ∈ lead.ways cs) :
    ∃ s : LeadSign, compact f.taken = s.text := by
  obtain ⟨g, hg, l, hl, rfl⟩ := mem_ways_seq.1 h
  obtain ⟨s, hs⟩ := exists_sign_of_mem_ways hg
  have blanks : compact l.taken = [] := by
    rw [compact, List.filter_eq_nil_iff]
    intro c hc
    simp [isKind_of_mem_ways hl c hc]
  refine ⟨s, ?_⟩
  rw [Found.andThen, compact_append, hs, s.compact_text, blanks, List.append_nil]

/-- What the pattern of a mantissa takes is a mantissa. -/
lemma exists_mantissa_of_mem_ways (h : f ∈ mantissa.ways cs) :
    ∃ m : Mantissa, f.taken = m.text := by
  obtain ⟨g, hg, l, hl, rfl⟩ := mem_ways_seq.1 h
  obtain ⟨point, hp, k, hk, rfl⟩ := mem_ways_seq.1 hl
  have digits := List.forall_mem_append.2 ⟨isKind_of_mem_ways hg, isKind_of_mem_ways hk⟩
  rcases mem_ways_optional.1 hp with hp | rfl
  · obtain ⟨c, rest, eq, hc, rfl⟩ := mem_ways_char.1 hp
    obtain rfl := beq_iff_eq.1 hc
    exact ⟨⟨g.taken, some k.taken, digits⟩, rfl⟩
  · -- Without a point the digits are one run.
    refine ⟨⟨g.taken ++ k.taken, none, ?_⟩, (List.append_nil _).symm⟩
    rwa [Option.getD_none, List.append_nil]

end Pattern

namespace Part

/-- What the part takes is one of the ways of the pattern, and a way is put together from its parts. -/
lemma exists_factor (cs : List Char) : ∃ f : Factor, compact (coefficient cs).1 = f.text := by
  have way := Pattern.mem_ways_of_first? (Pattern.follows_coefficient cs)
  obtain ⟨g, hg, l, hl, eq⟩ := Pattern.mem_ways_seq.1 way
  obtain ⟨k, hk, n, hn, rfl⟩ := Pattern.mem_ways_seq.1 hl
  obtain ⟨s, sign⟩ := Pattern.exists_lead_of_mem_ways hg
  obtain ⟨m, mantissa⟩ := Pattern.exists_mantissa_of_mem_ways hk
  obtain ⟨ns, divisors⟩ := Pattern.exists_divisors_of_mem_ways hn
  refine ⟨⟨s, m, ns⟩, ?_⟩
  have taken : (coefficient cs).1 = g.taken ++ (k.taken ++ n.taken) :=
    (congrArg Found.taken eq).symm
  rw [taken, compact_append, compact_append, sign, mantissa, divisors, m.compact_text,
    Literal.compact_chain]
  rfl

/-- A number with a digit at the front is a literal with a sign, apart from blanks. -/
lemma exists_literal {cs : List Char} (digit : (digits (lead cs).2).1 ≠ []) :
    ∃ (s : LeadSign) (l : Literal), compact (number cs).1 = s.text ++ l.text := by
  have first := Pattern.first?_number cs
  rw [if_neg digit] at first
  obtain ⟨g, hg, l, hl, eq⟩ := Pattern.mem_ways_seq.1 (Pattern.mem_ways_of_first? first)
  obtain ⟨k, hk, n, hn, rfl⟩ := Pattern.mem_ways_seq.1 hl
  obtain ⟨i, hi, j, hj, rfl⟩ := Pattern.mem_ways_seq.1 hn
  obtain ⟨s, sign⟩ := Pattern.exists_lead_of_mem_ways hg
  obtain ⟨whole, hw⟩ := Pattern.exists_digits_of_mem_ways hk
  obtain ⟨fraction, hf⟩ := Pattern.exists_fraction_of_mem_ways hi
  obtain ⟨ns, divisors⟩ := Pattern.exists_divisors_of_mem_ways hj
  let literal : Literal := ⟨⟨whole, fraction⟩, ns⟩
  refine ⟨s, literal, ?_⟩
  have taken : (number cs).1 = g.taken ++ (k.taken ++ (i.taken ++ j.taken)) :=
    (congrArg Found.taken eq).symm
  have text : k.taken ++ (i.taken ++ j.taken) = literal.text := by
    rw [hw, hf, divisors, Literal.text_eq]
  rw [taken, text, compact_append, sign, literal.compact_text]

/-- What is read as an exponent are digits with a sign. -/
lemma exists_signedDigits {cs e : List Char} (h : e ∈ (exponent cs).1) :
    ∃ (s : LeadSign) (d : Digits), e = s.text ++ d.chars := by
  unfold exponent at h
  split at h
  · next cs =>
    split at h
    · cases h
    · next digit =>
      have first := Pattern.first?_signedDigits cs
      rw [if_neg digit] at first
      obtain ⟨g, hg, l, hl, eq⟩ := Pattern.mem_ways_seq.1 (Pattern.mem_ways_of_first? first)
      obtain ⟨s, sign⟩ := Pattern.exists_sign_of_mem_ways hg
      obtain ⟨d, digits⟩ := Pattern.exists_digits_of_mem_ways hl
      have taken : (signedDigits cs).1 = g.taken ++ l.taken := (congrArg Found.taken eq).symm
      exact ⟨s, d, by rw [← Option.some.inj h, taken, sign, digits]⟩
  · cases h

end Part

namespace WrittenTerm

variable {t : WrittenTerm} {cs rest : List Char}

/-- A term that is cut off has the shape of one. -/
lemma shaped_of_cut? (h : cut? cs = some (t, rest)) : t.Shaped := by
  rcases Option.or_eq_some_iff.1 h with h | ⟨_, h⟩
  · unfold power? at h
    split at h
    · obtain ⟨rfl, rfl⟩ := Prod.mk.inj (Option.some.inj h)
      obtain ⟨f, text⟩ := Part.exists_factor cs
      exact .power f text fun e he => Part.exists_signedDigits he
    · cases h
  · unfold constant? at h
    split at h
    · cases h
    · next digit =>
      obtain ⟨rfl, rfl⟩ := Prod.mk.inj (Option.some.inj h)
      obtain ⟨s, l, text⟩ := Part.exists_literal digit
      exact .constant s l text

/-- So has every term that a scan finds. -/
lemma shaped_of_mem_scan (h : .term t ∈ Lexeme.scan cs) : t.Shaped := by
  fun_induction Lexeme.scan cs with
  | case1 => cases h
  | case2 c cs u rest cut _ ih =>
    rcases List.mem_cons.1 h with eq | h
    · cases eq
      exact shaped_of_cut? cut
    · exact ih h
  | case3 c cs cut ih =>
    rcases List.mem_cons.1 h with eq | h
    · cases eq
    · exact ih h

end WrittenTerm

/-! ## Reading a coefficient -/

namespace Factor

variable (f : Factor)

/-- The chain of the divisions. -/
def value : Float :=
  f.divisors.foldl (fun x n => x / n.value) (f.sign.apply f.mantissa.value)

/-- A factor has no blank. -/
lemma compact_text : compact f.text = f.text := by
  rw [text, unsigned, compact_append, compact_append, f.sign.compact_text,
    f.mantissa.compact_text, Literal.compact_chain]

/-- No character of a factor is blank. -/
lemma isBlank_of_mem_text {c : Char} (h : c ∈ f.text) : isBlank c = false :=
  isBlank_eq_false_of_mem_compact (f.compact_text.symm ▸ h)

/-- A factor is its sign, its mantissa and its divisors. -/
lemma text_eq : f.text =
    f.sign.text ++ f.mantissa.text ++ f.divisors.flatMap Literal.divisorText :=
  (List.append_assoc ..).symm

/-- No slash stands before the divisors. -/
lemma slash_not_mem : '/' ∉ f.sign.text ++ f.mantissa.text := by
  rw [List.mem_append, not_or]
  exact ⟨f.sign.not_mem_text_of_ne (by decide) (by decide),
    f.mantissa.not_mem_text (by decide) (by decide)⟩

/-- The mantissa is the only part that may be no number. -/
lemma readFraction_text : readFraction f.text =
    if f.mantissa.digits = [] then .error (.malformedNumber (String.ofList f.text))
    else .ok f.value := by
  have trimmed : trim f.text = f.text := trim_eq_self fun _ => f.isBlank_of_mem_text
  rw [readFraction, f.compact_text, trimmed, f.text_eq, Literal.splitAtEach_chain f.slash_not_mem,
    List.mapM_cons, f.mantissa.readFloat?_text f.sign, Literal.mapM_readFloat?_text, ← f.text_eq]
  by_cases none : f.mantissa.digits = []
  · rw [if_pos none, if_pos none]
    rfl
  · rw [if_neg none, if_neg none]
    exact congrArg Except.ok List.foldl_map

/-- What stands before the first slash are the sign and the mantissa. -/
lemma takeWhile_text : f.text.takeWhile (· != '/') = f.sign.text ++ f.mantissa.text := by
  have before : ∀ c ∈ f.sign.text ++ f.mantissa.text, (c != '/') = true := by
    intro c hc
    exact bne_iff_ne.2 fun eq => f.slash_not_mem (eq ▸ hc)
  rw [f.text_eq, List.takeWhile_append_of_pos before]
  cases f.divisors with
  | nil => exact List.append_nil _
  | cons n ns => exact List.append_nil _

/-- What stands after the sign are digits, points and slashes. -/
lemma kind_of_mem_unsigned {c : Char} (h : c ∈ f.unsigned) :
    c.isDigit = true ∨ c = '.' ∨ c = '/' := by
  rcases List.mem_append.1 h with mantissa | chain
  · exact (Mantissa.mem_digits_or_point mantissa).imp (f.mantissa.isDigit c) .inl
  · obtain ⟨n, _, mem⟩ := List.mem_flatMap.1 chain
    rcases List.mem_cons.1 mem with slash | mem
    · exact .inr (.inr slash)
    · exact (Numeral.isDigit_or_point_of_mem_text mem).imp id .inl

/-- No sign stands behind the sign. -/
lemma not_mem_sign_of_mem_unsigned {c : Char} (h : c ∈ f.unsigned) (s : LeadSign) :
    c ∉ s.text := by
  have kind := f.kind_of_mem_unsigned h
  have other : c ≠ '+' ∧ c ≠ '-' := by
    constructor <;> rintro rfl <;> simp at kind
  exact s.not_mem_text_of_ne other.1 other.2

/-- No `x` stands in a factor. -/
lemma x_not_mem_text : 'x' ∉ f.text := by
  rw [text, List.mem_append, not_or]
  refine ⟨f.sign.not_mem_text_of_ne (by decide) (by decide), fun mem => ?_⟩
  have kind := f.kind_of_mem_unsigned mem
  simp at kind

/-- A factor whose text is a sign is nothing else. -/
lemma unsigned_eq_nil_of_text_eq {s : LeadSign} (h : f.text = s.text) : f.unsigned = [] := by
  refine List.eq_nil_iff_forall_not_mem.2 fun c hc => f.not_mem_sign_of_mem_unsigned hc s ?_
  exact h ▸ List.mem_append_right _ hc

/-- A factor that is more than a sign, but has no digit before its divisors, has a point or a slash. -/
lemma point_or_slash_mem_text (none : f.mantissa.digits = []) (some : f.unsigned ≠ []) :
    '.' ∈ f.text ∨ '/' ∈ f.text := by
  obtain ⟨c, hc⟩ := List.exists_mem_of_ne_nil _ some
  rcases List.mem_append.1 hc with mantissa | chain
  · obtain rfl := f.mantissa.eq_point_of_mem_text none mantissa
    exact .inl (List.mem_append_right _ hc)
  · cases eq : f.divisors with
    | nil => simp [eq] at chain
    | cons n ns => exact .inr (by simp [text, unsigned, eq, Literal.divisorText])

/-- A factor that has no digit is numberless, unless it is no more than a sign. -/
lemma numberless_iff : Numberless f.text ↔ f.mantissa.digits = [] ∧ f.unsigned ≠ [] := by
  rw [Numberless, takeWhile_text]
  constructor
  · rintro ⟨digit, mark⟩
    refine ⟨List.eq_nil_iff_forall_not_mem.2 fun c hc => ?_, fun nil => ?_⟩
    · have mem := List.mem_append_right f.sign.text (f.mantissa.mem_text_of_mem_digits hc)
      exact Bool.false_ne_true ((digit c mem).symm.trans (f.mantissa.isDigit c hc))
    · rw [text, nil, List.append_nil] at mark
      exact mark.elim (f.sign.not_mem_text_of_ne (by decide) (by decide))
        (f.sign.not_mem_text_of_ne (by decide) (by decide))
  · rintro ⟨none, some⟩
    refine ⟨List.forall_mem_append.2 ⟨?_, fun c hc => ?_⟩, f.point_or_slash_mem_text none some⟩
    · rcases f.sign.text_cases with text | text | text <;> rw [text]
      · exact List.forall_mem_nil _
      · exact List.forall_mem_singleton.2 rfl
      · exact List.forall_mem_singleton.2 rfl
    · rw [f.mantissa.eq_point_of_mem_text none hc]
      rfl

section

variable {f} {coefficient : List Char} (h : compact coefficient = f.text)

include h

/-- A coefficient that is more than a sign is read as a fraction. -/
lemma readCoefficient_eq_readFraction (some : f.unsigned ≠ []) :
    WrittenTerm.readCoefficient coefficient = readFraction f.text := by
  have ne (s : LeadSign) : f.text ≠ s.text := fun eq => some (f.unsigned_eq_nil_of_text_eq eq)
  rw [WrittenTerm.readCoefficient, h]
  split
  · next eq => exact absurd eq (ne .absent)
  · next eq => exact absurd eq (ne .plus)
  · next eq => exact absurd eq (ne .minus)
  · rfl

/-- A coefficient can be read, if it is not without a number. -/
lemma exists_readCoefficient (number : ¬ Numberless (compact coefficient)) :
    ∃ x, WrittenTerm.readCoefficient coefficient = .ok x := by
  by_cases none : f.unsigned = []
  · rw [WrittenTerm.readCoefficient, h, text, none, List.append_nil]
    cases f.sign <;> exact ⟨_, rfl⟩
  · rw [readCoefficient_eq_readFraction h none, f.readFraction_text, if_neg]
    · exact ⟨_, rfl⟩
    · exact fun digits => number (h ▸ f.numberless_iff.2 ⟨digits, none⟩)

/-- A coefficient without a number is refused, and the error tells it. -/
lemma readCoefficient_eq_error (number : Numberless (compact coefficient)) :
    WrittenTerm.readCoefficient coefficient =
      .error (.malformedNumber (String.ofList (compact coefficient))) := by
  rw [h] at number ⊢
  obtain ⟨none, some⟩ := f.numberless_iff.1 number
  rw [readCoefficient_eq_readFraction h some, f.readFraction_text, if_pos none]

end

end Factor

/-! ## Reading an exponent -/

/-- Without a sign an exponent is the number of its digits. -/
lemma exponentValue_of_not_startsWithSign {cs : List Char} (h : ¬ StartsWithSign cs) :
    exponentValue cs = natOfDigits cs := by
  unfold exponentValue
  split
  · exact (h (.inr rfl)).elim
  · exact (h (.inl rfl)).elim
  · rfl

/-- Digits with a sign are read as their value. -/
lemma readInt?_signed (s : LeadSign) (d : Digits) :
    readInt? (s.text ++ d.chars) = some (exponentValue (s.text ++ d.chars)) := by
  have digits := d.readNat?_chars
  cases s with
  | absent =>
    obtain ⟨c, tail, text, digit⟩ := exists_digit_cons d.ne_nil d.isDigit []
    rw [List.append_nil] at text
    have unsigned : ¬ StartsWithSign d.chars := text ▸ not_startsWithSign_of_isDigit digit tail
    rw [LeadSign.text, List.nil_append, exponentValue_of_not_startsWithSign unsigned,
      readInt?_eq_readNat? (fun h => unsigned (.inr h)) fun h => unsigned (.inl h), digits]
    rfl
  | plus =>
    show readInt? ('+' :: d.chars) = _
    rw [readInt?_plus, digits]
    rfl
  | minus =>
    show readInt? ('-' :: d.chars) = _
    rw [readInt?_minus, digits]
    rfl

/-- An exponent is read as its value if that fits into 32 bits, and refused if it does not. -/
lemma readExponent_signed (s : LeadSign) (d : Digits) :
    WrittenTerm.readExponent (some (s.text ++ d.chars)) =
      if FitsInt32 (exponentValue (s.text ++ d.chars)) then .ok (exponentValue (s.text ++ d.chars))
      else .error (.malformedNumber (String.ofList (s.text ++ d.chars))) := by
  rw [WrittenTerm.readExponent, readInt32?, readIntWithin?, readInt?_signed, Option.filter_some]
  have fits (n : Int) : (-2 ^ 31 ≤ n && n ≤ 2 ^ 31 - 1 : Bool) = decide (FitsInt32 n) :=
    (Bool.decide_and ..).symm
  rw [fits]
  by_cases range : FitsInt32 (exponentValue (s.text ++ d.chars))
  · simp [range]
  · simp [range]

/-! ## Reading a written term -/

namespace WrittenTerm

variable {t : WrittenTerm} {error : TermError}

/-- A term has one fault at most. -/
lemma Fault.unique {error' : TermError} (h : t.Fault error) (h' : t.Fault error') :
    error = error' := by
  cases h <;> cases h' <;> first | rfl | contradiction | omega

/-- A constant can be read. -/
lemma exists_read_constant {literal : List Char} (h : (constant literal).Shaped) :
    ∃ x, (constant literal).read = .ok ⟨x, 0⟩ := by
  cases h with
  | constant s l text =>
    rw [read, Literal.readFraction_of_compact text]
    exact ⟨_, rfl⟩

/-- A term that can be read has no fault, and its exponent is in range; one that cannot be read has
the fault that is reported. -/
lemma Shaped.read_or_fault (h : t.Shaped) :
    (∃ term, t.read = .ok term ∧ (0 ≤ term.exponent ∧ term.exponent ≤ maxExponent) ∧
      ∀ error, ¬ t.Fault error) ∨
      ∃ error, t.read = .error error ∧ t.Fault error := by
  cases h with
  | constant s l text =>
    obtain ⟨x, eq⟩ := exists_read_constant (.constant s l text)
    exact .inl ⟨_, eq, by simp, nofun⟩
  | @power coefficient exponent f text digits =>
    by_cases number : Numberless (compact coefficient)
    · refine .inr ⟨_, ?_, .numberless number⟩
      rw [read, Factor.readCoefficient_eq_error text number]
      rfl
    · -- The coefficient is read, so the exponent decides.
      obtain ⟨x, eq⟩ := Factor.exists_readCoefficient text number
      rw [read, eq]
      cases exponent with
      | none =>
        have one : (0 : Int) ≤ 1 ∧ (1 : Int) ≤ maxExponent := by decide
        refine .inl ⟨⟨x, 1⟩, rfl, one, fun error fault => ?_⟩
        cases fault
        contradiction
      | some e =>
        obtain ⟨s, d, signed⟩ := digits e rfl
        have value := readExponent_signed s d
        rw [← signed] at value
        rw [value]
        by_cases range : FitsInt32 (exponentValue e)
        · rw [if_pos range]
          -- The exponent is checked in the order in which its faults are reported.
          by_cases neg : exponentValue e < 0
          · exact .inr ⟨_, if_pos neg, .negative number range neg⟩
          · by_cases large : maxExponent < exponentValue e
            · exact .inr ⟨_, (if_neg neg).trans (if_pos large), .tooLarge number range large⟩
            · refine .inl ⟨⟨x, exponentValue e⟩, (if_neg neg).trans (if_neg large),
                ⟨Int.not_lt.1 neg, Int.not_lt.1 large⟩, fun error fault => ?_⟩
              cases fault <;> contradiction
        · rw [if_neg range]
          exact .inr ⟨_, rfl, .wide number range⟩

/-- What cannot be read is what has a fault, and the fault is what is reported. -/
lemma Shaped.read_eq_error_iff (h : t.Shaped) : t.read = .error error ↔ t.Fault error := by
  rcases h.read_or_fault with ⟨term, eq, _, none⟩ | ⟨error', eq, fault⟩
  · rw [eq]
    exact ⟨nofun, fun fault => absurd fault (none error)⟩
  · rw [eq]
    constructor
    · rintro ⟨⟩
      exact fault
    · exact fun fault' => congrArg Except.error (fault.unique fault')

/-- A term that is read has an exponent within its bounds. -/
lemma Shaped.exponent_of_read {term : Term} (h : t.Shaped) (eq : t.read = .ok term) :
    0 ≤ term.exponent ∧ term.exponent ≤ maxExponent := by
  rcases h.read_or_fault with ⟨term', eq', range, _⟩ | ⟨error, eq', _⟩
  · rw [eq] at eq'
    exact Except.ok.inj eq' ▸ range
  · rw [eq] at eq'
    cases eq'

end WrittenTerm

/-! ## The first fault -/

section

variable {ε α β : Type} {f : α → Except ε β} {as : List α}

/-- Items one after the other, by induction on them: the first that fails is where all fail. -/
lemma mapM_eq_error_iff {place : α → Nat} (sorted : as.Pairwise fun a b => place a < place b)
    {error : ε} : as.mapM f = .error error ↔
      ∃ a ∈ as, f a = .error error ∧ ∀ b ∈ as, place b < place a → ∀ error', f b ≠ .error error' := by
  induction sorted with
  | nil => simp [pure, Except.pure]
  | @cons a as first _ ih =>
    rw [List.mapM_cons]
    cases eq : f a with
    | error e =>
      -- No later item can come first: the first one stands before it and has failed.
      constructor
      · rintro ⟨⟩
        refine ⟨a, List.mem_cons_self .., eq, fun b hb before => ?_⟩
        rcases List.mem_cons.1 hb with rfl | hb
        · omega
        · have := first b hb
          omega
      · rintro ⟨b, hb, failed, earlier⟩
        rcases List.mem_cons.1 hb with rfl | hb
        · rw [eq] at failed
          obtain rfl := Except.error.inj failed
          rfl
        · exact absurd eq (earlier a (List.mem_cons_self ..) (first b hb) e)
    | ok y =>
      have rest : (do let y ← Except.ok y; let ys ← as.mapM f; pure (y :: ys) : Except ε (List β)) =
          .error error ↔ as.mapM f = .error error := by
        cases as.mapM f with
        | error e => exact Iff.rfl
        | ok ys => exact ⟨nofun, nofun⟩
      rw [rest, ih]
      constructor
      · rintro ⟨b, hb, failed, earlier⟩
        refine ⟨b, List.mem_cons_of_mem _ hb, failed, fun c hc before => ?_⟩
        rcases List.mem_cons.1 hc with rfl | hc
        · rw [eq]
          exact nofun
        · exact earlier c hc before
      · rintro ⟨b, hb, failed, earlier⟩
        rcases List.mem_cons.1 hb with rfl | hb
        · rw [eq] at failed
          cases failed
        · exact ⟨b, hb, failed, fun c hc => earlier c (List.mem_cons_of_mem _ hc)⟩

/-- Steps that succeed together succeed each, and each result comes from one of them. -/
lemma mapM_eq_ok {bs : List β} (h : as.mapM f = .ok bs) :
    (∀ a ∈ as, ∃ b, f a = .ok b) ∧ ∀ b ∈ bs, ∃ a ∈ as, f a = .ok b := by
  induction as generalizing bs with
  | nil =>
    obtain rfl : [] = bs := Except.ok.inj h
    exact ⟨List.forall_mem_nil _, List.forall_mem_nil _⟩
  | cons a as ih =>
    rw [List.mapM_cons] at h
    cases eq : f a with
    | error e =>
      rw [eq] at h
      cases h
    | ok b =>
      cases rest : as.mapM f with
      | error e =>
        rw [eq, rest] at h
        cases h
      | ok bs' =>
        rw [eq, rest] at h
        obtain rfl : b :: bs' = bs := Except.ok.inj h
        obtain ⟨every, each⟩ := ih rest
        refine ⟨List.forall_mem_cons.2 ⟨⟨b, eq⟩, every⟩,
          List.forall_mem_cons.2 ⟨⟨a, List.mem_cons_self .., eq⟩, fun c hc => ?_⟩⟩
        obtain ⟨x, hx, read⟩ := each c hc
        exact ⟨x, List.mem_cons_of_mem _ hx, read⟩

end

section

variable {cs : List Char} {o : Occurrence}

/-- Every term that occurs has the shape of one. -/
lemma shaped_of_mem_occurrences (h : o ∈ occurrences cs) : o.term.Shaped :=
  WrittenTerm.shaped_of_mem_scan (Lexeme.exists_append_of_mem_occurrences h).1

/-- Terms occur one after the other. -/
lemma occurrences_ascending (cs : List Char) :
    (occurrences cs).Pairwise fun o p => o.start < p.start := by
  refine (Lexeme.occurrences_pairwise 0 (Lexeme.scan cs)).imp_of_mem fun {o p} ho _ apart => ?_
  have ne_nil := Lexeme.text_ne_nil_of_mem_scan (Lexeme.exists_append_of_mem_occurrences ho).1
  have := List.length_pos_iff.2 ne_nil
  unfold Occurrence.stop at apart
  rw [Lexeme.text] at this
  omega

/-- The terms of a text are read in the order in which they occur. -/
lemma readTerms_eq_mapM (cs : List Char) :
    readTerms cs = (occurrences cs).mapM fun o => o.term.read := by
  rw [readTerms, writtenTerms, ← Lexeme.map_term_occurrences 0, List.mapM_map]
  rfl

/-- All terms that are read have exponents within the bounds. -/
lemma exponent_of_readTerms {terms : List Term} {term : Term} (read : readTerms cs = .ok terms)
    (mem : term ∈ terms) : 0 ≤ term.exponent ∧ term.exponent ≤ maxExponent := by
  rw [readTerms_eq_mapM] at read
  obtain ⟨o, ho, eq⟩ := (mapM_eq_ok read).2 term mem
  exact (shaped_of_mem_occurrences ho).exponent_of_read eq

end

namespace Polynomial

variable {expression : String} {policy : MergePolicy} {p : Polynomial}

/-- An expression denotes a polynomial where its terms can be read. -/
lemma parse_eq_ok_iff : parse expression policy = .ok p ↔
    ∃ terms, readTerms expression.toList = .ok terms ∧
      p = ⟨(MergedTerms.ofTerms policy terms).dense, expression, MergedTerms.dense_ne_nil _⟩ := by
  rw [parse]
  cases readTerms expression.toList with
  | error error => exact ⟨nofun, fun ⟨_, read, _⟩ => nomatch read⟩
  | ok terms =>
    constructor
    · rintro ⟨⟩
      exact ⟨terms, rfl, rfl⟩
    · rintro ⟨_, ⟨⟩, rfl⟩
      rfl

/-- A text whose terms are known denotes their dense vector. -/
lemma exists_parse_of_readTerms {cs : List Char} {terms : List Term} (read : readTerms cs = .ok terms)
    (policy : MergePolicy) : ∃ p, parse (String.ofList cs) policy = .ok p ∧
      p.coefficients = (MergedTerms.ofTerms policy terms).dense :=
  ⟨_, parse_eq_ok_iff.2 ⟨terms, String.toList_ofList.symm ▸ read, rfl⟩, rfl⟩

/-- An expression denotes at most one coefficient for each exponent up to the largest. -/
lemma length_le_of_parse (h : parse expression policy = .ok p) :
    p.coefficients.length ≤ maxExponent + 1 := by
  obtain ⟨terms, read, rfl⟩ := parse_eq_ok_iff.1 h
  show (MergedTerms.ofTerms policy terms).dense.length ≤ maxExponent + 1
  rw [MergedTerms.length_dense]
  exact MergedTerms.places_ofTerms_le fun term mem => (exponent_of_readTerms read mem).2

end Polynomial

/-- Reading the terms of a text fails just when one of its written terms has a fault: a power whose
coefficient has a point or a slash but no digit before a slash, or whose exponent is no integer of 32
bits, is negative or exceeds the largest one. The fault of the leftmost such term is what is reported.
A constant can always be read. Where reading succeeds, all exponents are in range, and the text denotes
a polynomial with at least one coefficient and at most one for each exponent up to the largest. -/
theorem readTerms_eq_error_iff (cs : List Char) :
    (∀ error, readTerms cs = .error error ↔ ∃ o ∈ occurrences cs, o.term.Fault error ∧
      ∀ p ∈ occurrences cs, p.start < o.start → ∀ error', ¬ p.term.Fault error') ∧
    ((∃ error, readTerms cs = .error error) ↔
      ∃ o ∈ occurrences cs, ∃ error, o.term.Fault error) ∧
    (∀ o ∈ occurrences cs, o.term.isPower = false → ∃ x, o.term.read = .ok ⟨x, 0⟩) ∧
    ∀ terms, readTerms cs = .ok terms →
      (∀ term ∈ terms, 0 ≤ term.exponent ∧ term.exponent ≤ maxExponent) ∧
      ∀ policy, ∃ p, Polynomial.parse (String.ofList cs) policy = .ok p ∧
        1 ≤ p.coefficients.length ∧ p.coefficients.length ≤ maxExponent + 1 := by
  have faulty {o : Occurrence} (ho : o ∈ occurrences cs) (error : TermError) :
      o.term.read = .error error ↔ o.term.Fault error :=
    (shaped_of_mem_occurrences ho).read_eq_error_iff
  -- The terms are read in their order, so the first one that fails gives the error.
  have first (error : TermError) :
      readTerms cs = .error error ↔ ∃ o ∈ occurrences cs, o.term.Fault error ∧
        ∀ p ∈ occurrences cs, p.start < o.start → ∀ error', ¬ p.term.Fault error' := by
    rw [readTerms_eq_mapM, mapM_eq_error_iff (occurrences_ascending cs)]
    refine exists_congr fun o => and_congr_right fun ho => and_congr (faulty ho error) ?_
    exact forall₂_congr fun p hp => imp_congr_right fun _ => forall_congr' fun error' =>
      not_congr (faulty hp error')
  refine ⟨first, ⟨?_, ?_⟩, ?_, fun terms read => ?_⟩
  · rintro ⟨error, failed⟩
    obtain ⟨o, ho, fault, _⟩ := (first error).1 failed
    exact ⟨o, ho, error, fault⟩
  · rintro ⟨o, ho, error, fault⟩
    cases read : readTerms cs with
    | error error' => exact ⟨error', rfl⟩
    | ok terms =>
      rw [readTerms_eq_mapM] at read
      obtain ⟨term, eq⟩ := (mapM_eq_ok read).1 o ho
      rw [(faulty ho error).2 fault] at eq
      cases eq
  · intro o ho constant
    have shaped := shaped_of_mem_occurrences ho
    cases eq : o.term with
    | power coefficient exponent => simp [eq, WrittenTerm.isPower] at constant
    | constant literal =>
      rw [eq] at shaped
      exact WrittenTerm.exists_read_constant shaped
  · have range : ∀ term ∈ terms, 0 ≤ term.exponent ∧ term.exponent ≤ maxExponent := by
      intro term mem
      rw [readTerms_eq_mapM] at read
      obtain ⟨o, ho, eq⟩ := (mapM_eq_ok read).2 term mem
      exact (shaped_of_mem_occurrences ho).exponent_of_read eq
    refine ⟨range, fun policy => ?_⟩
    let merged := MergedTerms.ofTerms policy terms
    refine ⟨⟨merged.dense, String.ofList cs, merged.dense_ne_nil⟩, ?_, ?_⟩
    · rw [Polynomial.parse, String.toList_ofList, read]
      rfl
    · show 1 ≤ merged.dense.length ∧ merged.dense.length ≤ maxExponent + 1
      rw [merged.length_dense]
      exact ⟨merged.places_pos, MergedTerms.places_ofTerms_le fun term mem => (range term mem).2⟩

deriving instance DecidableEq for Occurrence

/-- The second of three terms is the first with a fault. In the other text there is none. -/
theorem readTerms_eq_error_iff_second :
    let cs := "3x + ./2x x^-2".toList
    let sound := "2 - 3x".toList
    readTerms cs = .error (.malformedNumber "+./2") ∧
      (∃ o ∈ occurrences cs, ∃ error, o.term.Fault error) ∧
      (WrittenTerm.constant ['2']).isPower = false ∧
      (∃ x, (WrittenTerm.constant ['2']).read = .ok ⟨x, 0⟩) ∧
      readTerms sound = .ok [⟨2.0, 0⟩, ⟨-3.0, 1⟩] ∧
      ∃ p, Polynomial.parse (String.ofList sound) .overwrite = .ok p ∧
        1 ≤ p.coefficients.length ∧ p.coefficients.length ≤ maxExponent + 1 := by
  intro cs sound
  have found : occurrences cs = [⟨0, .power ['3'] none⟩,
      ⟨3, .power ['+', ' ', '.', '/', '2'] none⟩, ⟨9, .power [' '] (some ['-', '2'])⟩] := by
    decide +kernel
  have found' : occurrences sound = [⟨0, .constant ['2']⟩, ⟨2, .power ['-', ' ', '3'] none⟩] := by
    decide +kernel
  obtain ⟨first, fails, _, _⟩ := readTerms_eq_error_iff cs
  obtain ⟨_, _, constants, read⟩ := readTerms_eq_error_iff sound
  have failed : readTerms cs = .error (.malformedNumber "+./2") := by
    rw [first, found]
    refine ⟨_, .tail _ (.head _), .numberless (by decide +kernel), fun p hp before error fault => ?_⟩
    rcases hp with _ | ⟨_, _ | ⟨_, _ | ⟨_, hp⟩⟩⟩
    · cases fault
      exact absurd ‹Numberless _› (by decide +kernel)
    · exact absurd before (Nat.lt_irrefl _)
    · exact absurd before (by decide)
    · cases hp
  have terms : readTerms sound = .ok [⟨2.0, 0⟩, ⟨-3.0, 1⟩] := by decide +kernel
  refine ⟨failed, fails.1 ⟨_, failed⟩, rfl, ?_, terms, (read _ terms).2 .overwrite⟩
  exact constants ⟨0, .constant ['2']⟩ (found' ▸ .head _) rfl

end PolySurvey
