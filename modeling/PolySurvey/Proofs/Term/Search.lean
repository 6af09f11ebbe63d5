import PolySurvey.Proofs.Term.Coverage
import PolySurvey.Proofs.Term.Pattern

/-!
# Written terms as the matches of a pattern

The scan cuts an expression into terms without ever going back: each part of a term takes what it can.
As a regular expression, a term is defined by all ways to match it, in the order of preference. Both
find the same terms at the same places. The first way of each part is the longest, and if the rest of
the pattern cannot be matched behind it, it cannot be matched behind a shorter one: a coefficient that
stands before an `x`, and a lead that stands before a digit, are in any way all that can be taken there.
-/

namespace PolySurvey

open Text

namespace Pattern

/-! ## The pattern of a term -/

/-- The pattern of a sign, or of none: `[-+]?`. -/
def sign : Pattern := optional (char fun c => c == '-' || c == '+')

/-- The pattern of a sign and the blanks after it: `[-+]?\s*`. -/
def lead : Pattern := seq sign (star (char isBlank))

/-- The pattern of digits, or of none: `[0-9]*`. -/
def digits : Pattern := star (char Char.isDigit)

/-- The pattern of at least one digit: `[0-9]+`. -/
def someDigits : Pattern := plus (char Char.isDigit)

/-- A mark with at least one digit after it. -/
def marked (mark : Char) : Pattern := seq (literal mark) someDigits

/-- The pattern of a divisor: `/[0-9]+(?:\.[0-9]+)?`. -/
def divisor : Pattern := seq (marked '/') (optional (marked '.'))

/-- Digits with a point anywhere among them. -/
def mantissa : Pattern := seq digits (seq (optional (literal '.')) digits)

/-- The pattern of a coefficient. -/
def coefficient : Pattern := seq lead (seq mantissa (star divisor))

/-- The pattern of a constant. -/
def number : Pattern := seq lead (seq someDigits (seq (optional (marked '.')) (star divisor)))

/-- The pattern of an exponent: `\^(?P<exp>[-+]?[0-9]+)`. -/
def exponent : Pattern := seq (literal '^') (group .exponent (seq sign someDigits))

/-- The variable with an exponent, if there is one. -/
def variablePower : Pattern := seq (literal 'x') (optional exponent)

/-- The pattern of a power. -/
def power : Pattern := seq (optional (group .coefficient coefficient)) variablePower

/-- A power or, less preferred, a constant:
`(?P<coef>[-+]?\s*[0-9]*\.?[0-9]*(?:/[0-9]+(?:\.[0-9]+)?)*)?x(?:\^(?P<exp>[-+]?[0-9]+))?` and
`(?P<constant>[-+]?\s*[0-9]+(?:\.[0-9]+)?(?:/[0-9]+(?:\.[0-9]+)?)*)`. -/
def writtenTerm : Pattern := alt power (group .constant number)

end Pattern

/-! ## Patterns that find what a part takes -/

/-- What a part takes, as a way of a pattern. -/
def Part.found (part : Part) (cs : List Char) : Found := ⟨(part cs).1, (part cs).2, []⟩

/-- Three parts one after the other. -/
lemma Part.andThen_assoc (p q r : Part) :
    (p.andThen q).andThen r = p.andThen (q.andThen r) := by
  funext cs
  simp only [Part.andThen, List.append_assoc]

/-- A part that takes nothing leaves the text as it is. -/
lemma Part.found_of_nil {part : Part} {cs : List Char} (lossless : part.Lossless)
    (h : (part cs).1 = []) : part.found cs = .nothing cs := by
  have rest := lossless cs
  rw [h, List.nil_append] at rest
  rw [found, h, rest, Found.nothing]

namespace Pattern

variable {p q : Pattern} {part part' : Part} {cs : List Char} {f : Found}

/-- On any text the pattern matches, and its first way is what the part takes. -/
def Follows (p : Pattern) (part : Part) : Prop := ∀ cs, p.first? cs = some (part.found cs)

/-- The pattern matches where the part takes something, and its first way is what the part takes. -/
def FollowsNonempty (p : Pattern) (part : Part) : Prop :=
  ∀ cs, p.first? cs = if (part cs).1 = [] then none else some (part.found cs)

/-- A pattern that follows a part always has a way. -/
lemma Follows.ways_ne_nil (h : p.Follows part) (cs : List Char) : p.ways cs ≠ [] := by
  intro none
  have first := h cs
  rw [first?_eq_none_iff.2 none] at first
  cases first

/-- Patterns in sequence follow parts one after the other. -/
lemma Follows.andThen (hp : p.Follows part) (hq : q.Follows part') :
    (seq p q).Follows (part.andThen part') := by
  intro cs
  rw [first?_seq (hp cs) fun none => absurd none (hq.ways_ne_nil _), hq]
  rfl

/-- The same where the first pattern must take something. -/
lemma FollowsNonempty.andThen (hp : p.FollowsNonempty part) (hq : q.Follows part')
    (cs : List Char) : (seq p q).first? cs =
      if (part cs).1 = [] then none else some ((part.andThen part').found cs) := by
  have first := hp cs
  split
  · next nil =>
    rw [if_pos nil] at first
    exact first?_seq_of_none first
  · next taken =>
    rw [if_neg taken] at first
    rw [first?_seq first fun none => absurd none (hq.ways_ne_nil _), hq]
    rfl

/-- An optional pattern follows a part that may take nothing. -/
lemma FollowsNonempty.optional (h : p.FollowsNonempty part) (lossless : part.Lossless) :
    (optional p).Follows part := by
  intro cs
  rw [first?_optional, h]
  split
  · next nil => rw [Part.found_of_nil lossless nil, Option.getD_none]
  · rfl

/-- A star of a character follows a run. -/
lemma follows_run (kind : Char → Bool) : (star (char kind)).Follows (Part.run kind) := by
  intro cs
  induction cs with
  | nil => exact first?_star_of_none rfl
  | cons c cs ih =>
    have first := first?_char kind c cs
    by_cases hc : kind c = true
    · rw [if_pos hc] at first
      rw [first?_star_of_some first (Nat.lt_succ_self _), ih]
      simp [Found.andThen, Part.found, Part.run, hc]
    · rw [if_neg hc] at first
      rw [first?_star_of_none first]
      simp [Found.nothing, Part.found, Part.run, hc]

/-- At least one digit is taken where digits are. -/
lemma followsNonempty_digits : someDigits.FollowsNonempty Part.digits := by
  intro cs
  cases cs with
  | nil => rfl
  | cons c cs =>
    rw [someDigits, plus, first?_seq_char, follows_run]
    by_cases hc : c.isDigit = true <;>
      simp [hc, Found.andThen, Part.found, Part.digits, Part.run]

/-- Digits after a mark are taken where there are both. -/
lemma followsNonempty_marked (mark : Char) : (marked mark).FollowsNonempty (Part.marked mark) := by
  intro cs
  cases cs with
  | nil => rfl
  | cons c cs =>
    rw [marked, literal, first?_seq_char, followsNonempty_digits]
    by_cases hc : c = mark
    · by_cases nil : (Part.digits cs).1 = [] <;>
        simp [hc, nil, Part.marked, Found.andThen, Part.found]
    · simp [hc, Part.marked]

/-- The pattern of a sign follows the part. -/
lemma follows_sign : sign.Follows Part.sign := by
  intro cs
  cases cs with
  | nil => rfl
  | cons c cs =>
    rw [sign, first?_optional, first?_char]
    by_cases plus : c = '+'
    · subst plus
      rfl
    · by_cases minus : c = '-'
      · subst minus
        rfl
      · simp [plus, minus, Found.nothing, Part.found, Part.sign]

/-- The pattern of a point follows the part. -/
lemma follows_point : (optional (literal '.')).Follows Part.point := by
  intro cs
  cases cs with
  | nil => rfl
  | cons c cs =>
    rw [literal, first?_optional, first?_char]
    by_cases point : c = '.'
    · subst point
      rfl
    · simp [point, Found.nothing, Part.found, Part.point]

/-- So does that of a fraction, which may be absent. -/
lemma follows_fraction (mark : Char) : (optional (marked mark)).Follows (Part.marked mark) :=
  (followsNonempty_marked mark).optional (Part.lossless_marked mark)

/-- A divisor is taken where there are digits after a slash. -/
lemma first?_divisor (cs : List Char) :
    divisor.first? cs = if (Part.marked '/' cs).1 = [] then none
      else some (((Part.marked '/').andThen (Part.marked '.')).found cs) :=
  (followsNonempty_marked '/').andThen (follows_fraction '.') cs

/-- The pattern of the divisors follows the part. -/
lemma follows_divisors : (star divisor).Follows Part.divisors := by
  intro cs
  have first := first?_divisor cs
  unfold Part.found at first ⊢
  fun_induction Part.divisors cs with
  | case1 cs nil =>
    rw [if_pos nil] at first
    exact first?_star_of_none first
  | case2 cs taken part less rest ih =>
    rw [if_neg taken] at first
    rw [first?_star_of_some first less, ih (first?_divisor _)]
    rfl

/-- The pattern of a lead follows the part. -/
lemma follows_lead : lead.Follows Part.lead := follows_sign.andThen (follows_run _)

/-- The pattern of a coefficient follows the part. -/
lemma follows_coefficient : coefficient.Follows Part.coefficient := by
  have digits := follows_run Char.isDigit
  have mantissa := digits.andThen (follows_point.andThen digits)
  have coefficient := follows_lead.andThen (mantissa.andThen follows_divisors)
  rwa [Part.andThen_assoc, Part.andThen_assoc] at coefficient

/-! ## What the other ways take -/

/-- A star of a character takes nothing but that kind, in whatever way. -/
lemma isKind_of_mem_ways {kind : Char → Bool} (h : f ∈ (star (char kind)).ways cs) :
    ∀ c ∈ f.taken, kind c = true := by
  refine star_induction (motive := fun _ f => ∀ c ∈ f.taken, kind c = true) ?_ ?_ h
  · exact fun _ => List.forall_mem_nil _
  · intro cs g hg l hl
    obtain ⟨c, rest, _, hc, rfl⟩ := mem_ways_char.1 hg
    exact List.forall_mem_cons.2 ⟨hc, hl⟩

/-- At least one digit is taken, in whatever way. -/
lemma exists_digits_of_mem_ways (h : f ∈ someDigits.ways cs) : ∃ d : Digits, f.taken = d.chars := by
  obtain ⟨g, hg, l, hl, rfl⟩ := mem_ways_seq.1 h
  obtain ⟨c, rest, _, hc, rfl⟩ := mem_ways_char.1 hg
  exact ⟨⟨c :: l.taken, List.cons_ne_nil _ _,
    List.forall_mem_cons.2 ⟨hc, isKind_of_mem_ways hl⟩⟩, rfl⟩

/-- A mark and digits after it are taken, in whatever way. -/
lemma exists_mark_of_mem_ways {mark : Char} (h : f ∈ (marked mark).ways cs) :
    ∃ d : Digits, f.taken = mark :: d.chars := by
  obtain ⟨g, hg, l, hl, rfl⟩ := mem_ways_seq.1 h
  obtain ⟨c, rest, _, hc, rfl⟩ := mem_ways_char.1 hg
  obtain ⟨d, hd⟩ := exists_digits_of_mem_ways hl
  exact ⟨d, congrArg₂ List.cons (beq_iff_eq.1 hc) hd⟩

/-- A point and digits after it are taken, or nothing, in whatever way. -/
lemma exists_fraction_of_mem_ways (h : f ∈ (optional (marked '.')).ways cs) :
    ∃ fraction, f.taken = Numeral.fractionText fraction := by
  rcases mem_ways_optional.1 h with h | rfl
  · obtain ⟨d, hd⟩ := exists_mark_of_mem_ways h
    exact ⟨some d, hd⟩
  · exact ⟨none, rfl⟩

/-- Divisors are taken, in whatever way. -/
lemma exists_divisors_of_mem_ways (h : f ∈ (star divisor).ways cs) :
    ∃ ns : List Numeral, f.taken = ns.flatMap Literal.divisorText := by
  refine star_induction
    (motive := fun _ f => ∃ ns : List Numeral, f.taken = ns.flatMap Literal.divisorText) ?_ ?_ h
  · exact fun _ => ⟨[], rfl⟩
  · rintro cs g hg l ⟨ns, hl⟩
    obtain ⟨slash, hs, point, hp, rfl⟩ := mem_ways_seq.1 hg
    obtain ⟨whole, hw⟩ := exists_mark_of_mem_ways hs
    obtain ⟨fraction, hf⟩ := exists_fraction_of_mem_ways hp
    refine ⟨⟨whole, fraction⟩ :: ns, ?_⟩
    rw [Found.andThen, Found.andThen, hw, hf, hl]
    rfl

end Pattern

/-- A text that carries no lead on. -/
structure EndsLead (rest : List Char) : Prop where
  unsigned : ¬ StartsWithSign rest
  blank : ∀ c ∈ rest.head?, isBlank c = false

namespace EndsLead

variable {rest : List Char}

/-- A lead ends before a digit. -/
lemma of_isDigit {c : Char} (h : c.isDigit = true) (rest : List Char) : EndsLead (c :: rest) where
  unsigned := not_startsWithSign_of_isDigit h rest
  blank := by
    rintro _ ⟨⟩
    exact isBlank_of_isDigit h

/-- A lead ends before a point, a slash or an `x`. -/
lemma of_mark {c : Char} (h : c = '.' ∨ c = '/' ∨ c = 'x') (rest : List Char) :
    EndsLead (c :: rest) := by
  have (plus : c ≠ '+') (minus : c ≠ '-') (blank : isBlank c = false) : EndsLead (c :: rest) :=
    ⟨by simp [StartsWithSign, plus, minus], by simp [blank]⟩
  rcases h with rfl | rfl | rfl <;> exact this (by decide) (by decide) (by decide)

/-- A lead ends before digits, or before what ends it after them. -/
lemma digits_append {digits : List Char} (hd : ∀ c ∈ digits, c.isDigit = true)
    (h : EndsLead rest) : EndsLead (digits ++ rest) := by
  cases digits with
  | nil => exact h
  | cons c digits => exact of_isDigit (hd c (List.mem_cons_self ..)) _

/-- A lead ends before divisors, or before what ends it after them. -/
lemma divisors_append (ns : List Numeral) (h : EndsLead rest) :
    EndsLead (ns.flatMap Literal.divisorText ++ rest) := by
  cases ns with
  | nil => exact h
  | cons n ns => exact of_mark (.inr (.inl rfl)) _

end EndsLead

namespace Pattern

variable {cs : List Char} {f : Found}

/-! ## Only one way can be carried on -/

/-- A sign is taken as the part takes it, if no sign is left. -/
lemma sign_takes_of_mem_ways (h : f ∈ sign.ways cs) (unsigned : ¬ StartsWithSign f.rest) :
    Part.sign.Takes f.taken f.rest := by
  rcases mem_ways_optional.1 h with h | rfl
  · obtain ⟨c, rest, rfl, hc, rfl⟩ := mem_ways_char.1 h
    refine Part.sign_takes ?_ rest
    simpa [or_comm] using hc
  · exact Part.sign_takes_nil unsigned

/-- What two parts take in sequence. -/
lemma takes_andThen {q : Pattern} {part part' : Part} {g l : Found} (hl : l ∈ q.ways g.rest)
    (first : part.Takes g.taken g.rest) (second : part'.Takes l.taken l.rest) :
    (part.andThen part').Takes (g.andThen l).taken (g.andThen l).rest := by
  rw [← append_of_mem_ways hl] at first
  exact first.andThen second

/-- A part that takes what a way takes leaves what the way leaves. -/
lemma rest_of_takes {p : Pattern} {part : Part} (h : f ∈ p.ways cs)
    (takes : part.Takes f.taken f.rest) : (part cs).2 = f.rest := by
  rw [Part.Takes, append_of_mem_ways h] at takes
  rw [takes]

/-- A lead is taken as the part takes it, if what is left ends one. -/
lemma lead_takes_of_mem_ways (h : f ∈ lead.ways cs) (ends : EndsLead f.rest) :
    Part.lead.Takes f.taken f.rest := by
  obtain ⟨g, hg, l, hl, rfl⟩ := mem_ways_seq.1 h
  have signs : g.taken = [] ∨ g.taken = ['+'] ∨ g.taken = ['-'] := by
    rcases mem_ways_optional.1 hg with hg | rfl
    · obtain ⟨c, rest, rfl, hc, rfl⟩ := mem_ways_char.1 hg
      simpa [or_comm] using hc
    · exact .inl rfl
  exact Part.lead_takes signs (isKind_of_mem_ways hl) ends.unsigned ends.blank

/-- If no point is taken, the digits on both sides of it are one run. -/
lemma mantissa_takes_of_mem_ways (h : f ∈ mantissa.ways cs) (ends : EndsNumeral f.rest) :
    (Part.digits.andThen (Part.point.andThen Part.digits)).Takes f.taken f.rest := by
  obtain ⟨g, hg, l, hl, rfl⟩ := mem_ways_seq.1 h
  obtain ⟨point, hp, k, hk, rfl⟩ := mem_ways_seq.1 hl
  have before := isKind_of_mem_ways hg
  have after := isKind_of_mem_ways hk
  rcases mem_ways_optional.1 hp with hp | rfl
  · obtain ⟨c, rest, eq, hc, rfl⟩ := mem_ways_char.1 hp
    obtain rfl := beq_iff_eq.1 hc
    -- The run of digits before the point ends there.
    refine takes_andThen hl (Part.digits_takes before ?_)
      (takes_andThen hk (Part.point_takes _) (Part.digits_takes after ends.digit))
    rw [eq]
    rintro _ ⟨⟩
    rfl
  · have run := Part.digits_takes (List.forall_mem_append.2 ⟨before, after⟩) ends.digit
    have nothing := (Part.point_takes_nil ends.point).andThen (Part.digits_takes_nil ends.digit)
    have all := run.andThen nothing
    rw [List.append_nil, List.append_nil] at all
    exact all

/-- A lead ends before a mantissa, or before what ends it after an empty one. -/
lemma endsLead_of_mem_ways (h : f ∈ mantissa.ways cs) (ends : EndsLead f.rest) : EndsLead cs := by
  rw [← append_of_mem_ways h]
  obtain ⟨g, hg, l, hl, rfl⟩ := mem_ways_seq.1 h
  obtain ⟨point, hp, k, hk, rfl⟩ := mem_ways_seq.1 hl
  have later : EndsLead (k.taken ++ k.rest) := ends.digits_append (isKind_of_mem_ways hk)
  show EndsLead (g.taken ++ (point.taken ++ k.taken) ++ k.rest)
  rw [List.append_assoc, List.append_assoc]
  refine EndsLead.digits_append (isKind_of_mem_ways hg) ?_
  rcases mem_ways_optional.1 hp with hp | rfl
  · obtain ⟨c, rest, eq, hc, rfl⟩ := mem_ways_char.1 hp
    exact .of_mark (.inl (beq_iff_eq.1 hc)) _
  · exact later

/-- A coefficient before `x` is all that can be taken there. -/
lemma coefficient_takes_of_mem_ways (h : f ∈ coefficient.ways cs) {tail : List Char}
    (hx : f.rest = 'x' :: tail) : Part.coefficient.Takes f.taken f.rest := by
  obtain ⟨g, hg, l, hl, rfl⟩ := mem_ways_seq.1 h
  obtain ⟨k, hk, m, hm, rfl⟩ := mem_ways_seq.1 hl
  obtain ⟨ns, taken⟩ := exists_divisors_of_mem_ways hm
  have literal : EndsLiteral m.rest := hx ▸ EndsLiteral.of_x tail
  have endsLead : EndsLead m.rest := hx ▸ EndsLead.of_mark (.inr (.inr rfl)) tail
  have text : k.rest = ns.flatMap Literal.divisorText ++ m.rest :=
    taken ▸ (append_of_mem_ways hm).symm
  have divisors : Part.Takes Part.divisors m.taken m.rest := taken ▸ Part.divisors_takes ns literal
  have mantissa := mantissa_takes_of_mem_ways hk (text ▸ literal.chain ns)
  have lead := lead_takes_of_mem_ways hg
    (endsLead_of_mem_ways hk (text ▸ endsLead.divisors_append ns))
  have whole := takes_andThen hl lead (takes_andThen hm mantissa divisors)
  rwa [Part.andThen_assoc, Part.andThen_assoc] at whole

/-! ## The match of a term -/

/-- Where digits must come next, the match begins with what the part takes. -/
lemma first?_seq_digits {p q : Pattern} {part part' : Part} (hp : p.Follows part)
    (hq : ∀ cs, q.first? cs =
      if (Part.digits cs).1 = [] then none else some (part'.found cs))
    (takes : ∀ f ∈ p.ways cs, ∀ c tail, c.isDigit = true → f.rest = c :: tail →
      part.Takes f.taken f.rest) :
    (seq p q).first? cs = if (Part.digits (part cs).2).1 = [] then none
      else some ((part.andThen part').found cs) := by
  rw [first?_seq_of_rest (hp cs)]
  · show (q.first? (part cs).2).map _ = _
    rw [hq]
    split <;> rfl
  · -- A way that can be carried on leaves a digit behind.
    intro g hg some
    have digits : (Part.digits g.rest).1 ≠ [] := by
      intro nil
      have none := hq g.rest
      rw [if_pos nil] at none
      exact some (first?_eq_none_iff.1 none)
    cases rest : g.rest with
    | nil =>
      rw [rest] at digits
      exact absurd rfl digits
    | cons c tail =>
      rw [← rest]
      refine rest_of_takes hg (takes g hg c tail ?_ rest)
      by_contra other
      exact digits (by simp [rest, Part.digits, Part.run, other])

/-- A constant is taken where there is a digit after the lead. -/
lemma first?_number (cs : List Char) : number.first? cs =
    if (Part.digits (Part.lead cs).2).1 = [] then none else some (Part.number.found cs) := by
  have tail := followsNonempty_digits.andThen ((follows_fraction '.').andThen follows_divisors)
  refine first?_seq_digits follows_lead tail fun f hf c tail hc rest => ?_
  exact lead_takes_of_mem_ways hf (rest ▸ EndsLead.of_isDigit hc tail)

/-- Digits with a sign are taken where there is a digit. -/
lemma first?_signedDigits (cs : List Char) : (seq sign someDigits).first? cs =
    if (Part.digits (Part.sign cs).2).1 = [] then none else some (Part.signedDigits.found cs) := by
  refine first?_seq_digits follows_sign followsNonempty_digits fun f hf c tail hc rest => ?_
  exact sign_takes_of_mem_ways hf (rest ▸ not_startsWithSign_of_isDigit hc tail)

end Pattern

namespace WrittenTerm

/-- What is remembered of an exponent. -/
def exponentGroups : Option (List Char) → List (GroupName × List Char)
  | none => []
  | some exponent => [(.exponent, exponent)]

/-- The groups of the pattern that a written term fills. -/
def groups : WrittenTerm → List (GroupName × List Char)
  | .power coefficient exponent => (.coefficient, coefficient) :: exponentGroups exponent
  | .constant literal => [(.constant, literal)]

/-- A written term as a match. -/
def found (t : WrittenTerm) (rest : List Char) : Found := ⟨t.text, rest, t.groups⟩

end WrittenTerm

namespace Pattern

/-- An exponent is taken as the part takes it, and remembered. -/
lemma first?_exponent (cs : List Char) : (optional exponent).first? cs =
    some ⟨WrittenTerm.exponentText (Part.exponent cs).1, (Part.exponent cs).2,
      WrittenTerm.exponentGroups (Part.exponent cs).1⟩ := by
  cases cs with
  | nil => rfl
  | cons c cs =>
    rw [first?_optional, exponent, literal, first?_seq_char, first?_group, first?_signedDigits]
    by_cases caret : c = '^'
    · subst caret
      by_cases nil : (Part.digits (Part.sign cs).2).1 = []
      · simp [nil, Part.exponent, Found.nothing, WrittenTerm.exponentText,
          WrittenTerm.exponentGroups]
      · simp [nil, Part.exponent, Part.found, Found.close, Found.andThen, WrittenTerm.exponentText,
          WrittenTerm.exponentGroups]
    · simp [caret, Part.exponent, Found.nothing, WrittenTerm.exponentText,
        WrittenTerm.exponentGroups]

/-- A power is taken as the scanner takes it. -/
lemma first?_power (cs : List Char) :
    power.first? cs = (WrittenTerm.power? cs).map fun (t, rest) => t.found rest := by
  have first : (optional (group .coefficient coefficient)).first? cs =
      some ((Part.coefficient.found cs).close .coefficient) := by
    rw [first?_optional, first?_group, follows_coefficient]
    rfl
  -- The coefficient is taken in its first way, and backtracking into it finds nothing else.
  rw [power, first?_seq_of_rest first, WrittenTerm.power?]
  · show (variablePower.first? (Part.coefficient cs).2).map _ = _
    cases (Part.coefficient cs).2 with
    | nil => rfl
    | cons c tail =>
      rw [variablePower, literal, first?_seq_char, first?_exponent]
      by_cases hx : c = 'x'
      · subst hx
        rfl
      · simp [hx]
  · -- A way that can be carried on leaves an `x` behind, with or without a coefficient before it.
    intro g hg some
    obtain ⟨l, hl⟩ := List.exists_mem_of_ne_nil _ some
    obtain ⟨k, hk, -⟩ := mem_ways_seq.1 hl
    obtain ⟨c, tail, rest, hc, -⟩ := mem_ways_char.1 hk
    obtain rfl := beq_iff_eq.1 hc
    rcases mem_ways_optional.1 hg with hg | rfl
    · obtain ⟨f, hf, rfl⟩ := mem_ways_group.1 hg
      have takes := coefficient_takes_of_mem_ways hf (show f.rest = 'x' :: tail from rest)
      exact (rest_of_takes hf takes :)
    · show (Part.coefficient cs).2 = cs
      obtain rfl : cs = 'x' :: tail := rest
      rw [Part.coefficient_x]

/-- The match of the pattern is the term that is cut off. -/
lemma first?_writtenTerm (cs : List Char) :
    writtenTerm.first? cs = (WrittenTerm.cut? cs).map fun (t, rest) => t.found rest := by
  have constant : (group .constant number).first? cs =
      (WrittenTerm.constant? cs).map fun (t, rest) => t.found rest := by
    rw [first?_group, first?_number, WrittenTerm.constant?]
    split <;> rfl
  rw [writtenTerm, first?_alt, first?_power, constant, WrittenTerm.cut?]
  cases WrittenTerm.power? cs <;> rfl

end Pattern

/-! ## The matches in an expression -/

/-- An occurrence of a written term as a match. -/
def Occurrence.toMatch (o : Occurrence) : Pattern.Match := ⟨o.start, o.term.text, o.term.groups⟩

/-- The occurrences are what the search finds: by induction on the text, one lexeme at a time. -/
lemma Lexeme.searches_occurrences (start : Nat) (cs : List Char) :
    Pattern.writtenTerm.Searches start cs
      ((occurrences start (scan cs)).map Occurrence.toMatch) := by
  fun_induction scan cs generalizing start with
  | case1 =>
    refine .done fun i => ?_
    have none : WrittenTerm.cut? [] = none := by
      by_contra some
      obtain ⟨⟨t, rest⟩, cut⟩ := Option.ne_none_iff_exists'.1 some
      obtain ⟨text, ne_nil⟩ := WrittenTerm.text_append_of_cut? cut
      exact ne_nil (List.append_eq_nil_iff.1 text).1
    rw [List.drop_nil, Pattern.first?_writtenTerm, none]
    rfl
  | case2 c cs t rest cut _ ih =>
    have first := Pattern.first?_writtenTerm (c :: cs)
    rw [cut] at first
    exact .next (i := 0) (fun j hj => absurd hj (Nat.not_lt_zero j)) first (ih _)
  | case3 c cs cut ih =>
    have none := Pattern.first?_writtenTerm (c :: cs)
    rw [cut] at none
    exact Pattern.searches_cons none (ih _)

/-- The terms that are read from an expression, at their places and with their parts, are the matches
that a search for the pattern of a term finds. -/
theorem searches_iff_occurrences (cs : List Char) :
    readTerms cs = ((occurrences cs).map Occurrence.term).mapM WrittenTerm.read ∧
      ∀ ms, Pattern.writtenTerm.Searches 0 cs ms ↔
        ms = (occurrences cs).map Occurrence.toMatch := by
  have found : Pattern.writtenTerm.Searches 0 cs ((occurrences cs).map Occurrence.toMatch) :=
    Lexeme.searches_occurrences 0 cs
  refine ⟨?_, fun ms => ⟨fun h => h.unique found, ?_⟩⟩
  · rw [readTerms, writtenTerms, occurrences, Lexeme.map_term_occurrences]
  · rintro rfl
    exact found

/-- A number has one point. The second one can only begin a coefficient. -/
example : (occurrences "2.5.3x".toList).map (fun o => (o.start, o.term)) =
    [(0, .constant ['2', '.', '5']), (3, .power ['.', '3'] none)] := by decide +kernel

end PolySurvey
