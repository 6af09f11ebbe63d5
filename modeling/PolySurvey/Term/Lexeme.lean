import PolySurvey.Text.Blank

/-!
# The written terms of an expression

An expression is cut, from left to right, into written terms and single characters that belong to
none. A written term is a power, `x` with an optional coefficient before it and an optional exponent
after it, or a constant. Where a power can start it is taken, else a constant, and each of their parts
extends as far as it can.

The main statements say that the pieces of an expression, put together again, are the expression, and
that every piece has at least one character.
-/

namespace PolySurvey

open Text

/-- A term as it stands in an expression. -/
inductive WrittenTerm where
  /-- The variable with the text of its coefficient, and the text of its exponent if it has one. -/
  | power (coefficient : List Char) (exponent : Option (List Char))
  /-- The text of a number. -/
  | constant (literal : List Char)
deriving DecidableEq, Repr

/-- The text of an optional exponent, with its mark. -/
def WrittenTerm.exponentText : Option (List Char) → List Char
  | none => []
  | some exponent => '^' :: exponent

/-- The whole text of a written term. -/
def WrittenTerm.text : WrittenTerm → List Char
  | .power coefficient exponent => coefficient ++ 'x' :: exponentText exponent
  | .constant literal => literal

/-- A piece of an expression. -/
inductive Lexeme where
  /-- A character that belongs to no term. -/
  | skipped (c : Char)
  | term (t : WrittenTerm)
deriving DecidableEq, Repr

namespace Lexeme

/-- The text of a piece. -/
def text : Lexeme → List Char
  | .skipped c => [c]
  | .term t => t.text

/-- The written term that a piece is, if it is one. -/
def term? : Lexeme → Option WrittenTerm
  | .skipped _ => none
  | .term t => some t

end Lexeme

/-! ## Parts of a term -/

/-- A part takes something, perhaps nothing, from the front of a text; the second component is the
rest. -/
abbrev Part := List Char → List Char × List Char

namespace Part

/-- The longest run of characters of one kind. -/
def run (kind : Char → Bool) : Part := fun cs => (cs.takeWhile kind, cs.dropWhile kind)

/-- One part after the other. -/
def andThen (p q : Part) : Part := fun cs =>
  let first := p cs
  let second := q first.2
  (first.1 ++ second.1, second.2)

/-- An optional sign. -/
def sign : Part
  | '+' :: cs => (['+'], cs)
  | '-' :: cs => (['-'], cs)
  | cs => ([], cs)

/-- Any number of digits. -/
def digits : Part := run Char.isDigit

/-- An optional sign and any number of blanks. -/
def lead : Part := sign.andThen (run isBlank)

/-- An optional point. -/
def point : Part
  | '.' :: cs => (['.'], cs)
  | cs => ([], cs)

/-- A mark with at least one digit after it, or nothing. -/
def marked (mark : Char) : Part
  | [] => ([], [])
  | c :: cs =>
    if c = mark ∧ (digits cs).1 ≠ [] then (c :: (digits cs).1, (digits cs).2) else ([], c :: cs)

/-- A part takes nothing that is not there: put together again, both components are the text. -/
def Lossless (p : Part) : Prop := ∀ cs, (p cs).1 ++ (p cs).2 = cs

/-- A run of characters loses nothing. -/
theorem lossless_run (kind : Char → Bool) : Lossless (run kind) := fun _ =>
  List.takeWhile_append_dropWhile

/-- Two parts one after the other lose nothing if neither does. -/
theorem Lossless.andThen {p q : Part} (hp : Lossless p) (hq : Lossless q) :
    Lossless (p.andThen q) := fun cs => by
  have h := hq (p cs).2
  simp only [Part.andThen, List.append_assoc, h]
  exact hp cs

/-- A sign, or none, loses nothing. -/
theorem lossless_sign : Lossless sign := fun cs => by
  unfold sign
  split <;> rfl

/-- The sign and the digits at the front lose nothing. -/
theorem lossless_lead : Lossless lead := lossless_sign.andThen (lossless_run _)

/-- A point with the digits after it loses nothing. -/
theorem lossless_point : Lossless point := fun cs => by
  unfold point
  split <;> rfl

/-- Digits after a mark lose nothing, nor does the mark. -/
theorem lossless_marked (mark : Char) : Lossless (marked mark) := fun cs => by
  cases cs with
  | nil => rfl
  | cons c cs =>
    have h : (digits cs).1 ++ (digits cs).2 = cs := lossless_run Char.isDigit cs
    by_cases hc : c = mark ∧ (digits cs).1 ≠ []
    · simp only [marked, if_pos hc, List.cons_append, h]
    · simp only [marked, if_neg hc, List.nil_append]

/-- A part that takes something leaves less. -/
theorem Lossless.length_lt {p : Part} (hp : Lossless p) {cs : List Char} (h : (p cs).1 ≠ []) :
    (p cs).2.length < cs.length := by
  have := congrArg List.length (hp cs)
  have := List.length_pos_iff.2 h
  simp only [List.length_append] at *
  omega

/-- Any number of divisors, each a slash with digits after it and an optional fraction: the digits
after the slash may be followed by a point with digits after it. -/
def divisors (cs : List Char) : List Char × List Char :=
  if h : (marked '/' cs).1 = [] then
    ([], cs)
  else
    let first := (marked '/').andThen (marked '.') cs
    have : first.2.length < cs.length := by
      have h1 := (lossless_marked '/').length_lt h
      have h2 := congrArg List.length (lossless_marked '.' (marked '/' cs).2)
      simp only [List.length_append] at h2
      simp only [first, Part.andThen]
      omega
    let rest := divisors first.2
    (first.1 ++ rest.1, rest.2)
termination_by cs.length

/-- A chain of divisors loses nothing. -/
theorem lossless_divisors : Lossless divisors := fun cs => by
  fun_induction divisors cs with
  | case1 => rfl
  | case2 cs h first _ rest ih =>
    have := (lossless_marked '/').andThen (lossless_marked '.') cs
    simp only [List.append_assoc, rest, ih, first, this]

/-- What may stand before `x`: a sign, blanks, digits with a point anywhere among them, and
divisors. All of it is optional. -/
def coefficient : Part :=
  lead.andThen (digits.andThen (point.andThen (digits.andThen divisors)))

/-- A number: a sign and blanks, which are optional, digits, an optional fraction, and divisors. -/
def number : Part :=
  lead.andThen (digits.andThen ((marked '.').andThen divisors))

/-- An optional sign and any number of digits. -/
def signedDigits : Part := sign.andThen digits

/-- A coefficient loses nothing. -/
theorem lossless_coefficient : Lossless coefficient :=
  lossless_lead.andThen ((lossless_run _).andThen (lossless_point.andThen
    ((lossless_run _).andThen lossless_divisors)))

/-- A number loses nothing. -/
theorem lossless_number : Lossless number :=
  lossless_lead.andThen ((lossless_run _).andThen ((lossless_marked _).andThen lossless_divisors))

/-- Digits with a sign lose nothing. -/
theorem lossless_signedDigits : Lossless signedDigits := lossless_sign.andThen (lossless_run _)

/-- An exponent with its mark: a caret, an optional sign and at least one digit. Its text is returned
without the caret. -/
def exponent : List Char → Option (List Char) × List Char
  | '^' :: cs =>
    if (digits (sign cs).2).1 = [] then (none, '^' :: cs)
    else (some (signedDigits cs).1, (signedDigits cs).2)
  | cs => (none, cs)

/-- The text of an exponent and what is left make up the whole. -/
theorem exponentText_append (cs : List Char) :
    WrittenTerm.exponentText (exponent cs).1 ++ (exponent cs).2 = cs := by
  unfold exponent
  split
  · split
    · rfl
    · simp [WrittenTerm.exponentText, lossless_signedDigits _]
  · rfl

end Part

/-! ## Terms and pieces -/

namespace WrittenTerm

/-- The power that a text starts with, and the rest. -/
def power? (cs : List Char) : Option (WrittenTerm × List Char) :=
  match (Part.coefficient cs).2 with
  | 'x' :: rest =>
    some (.power (Part.coefficient cs).1 (Part.exponent rest).1, (Part.exponent rest).2)
  | _ => none

/-- The constant that a text starts with, and the rest. It has a digit after its sign and blanks. -/
def constant? (cs : List Char) : Option (WrittenTerm × List Char) :=
  if (Part.digits (Part.lead cs).2).1 = [] then none
  else some (.constant (Part.number cs).1, (Part.number cs).2)

/-- The written term that a text starts with, and the rest. -/
def cut? (cs : List Char) : Option (WrittenTerm × List Char) :=
  (power? cs).or (constant? cs)

/-- A power is taken from the front and is not empty; with what is left it makes up the whole. -/
theorem text_append_of_power? {cs rest : List Char} {t : WrittenTerm}
    (h : power? cs = some (t, rest)) : t.text ++ rest = cs ∧ t.text ≠ [] := by
  unfold power? at h
  split at h
  · next tail htail =>
    obtain ⟨rfl, rfl⟩ := Prod.mk.inj (Option.some.inj h)
    have := Part.lossless_coefficient cs
    simp_all [text, Part.exponentText_append]
  · simp at h

/-- A constant is taken from the front in the same way. -/
theorem text_append_of_constant? {cs rest : List Char} {t : WrittenTerm}
    (h : constant? cs = some (t, rest)) : t.text ++ rest = cs ∧ t.text ≠ [] := by
  unfold constant? at h
  split at h
  · simp at h
  · next hd =>
    obtain ⟨rfl, rfl⟩ := Prod.mk.inj (Option.some.inj h)
    refine ⟨Part.lossless_number cs, ?_⟩
    simp [text, Part.number, Part.andThen, hd]

/-- A written term is what the text starts with, and it is not empty. -/
theorem text_append_of_cut? {cs rest : List Char} {t : WrittenTerm}
    (h : cut? cs = some (t, rest)) : t.text ++ rest = cs ∧ t.text ≠ [] := by
  rcases Option.or_eq_some_iff.1 h with h | ⟨_, h⟩
  · exact text_append_of_power? h
  · exact text_append_of_constant? h

/-- A term that is cut off takes characters from the front. -/
theorem length_lt_of_cut? {cs rest : List Char} {t : WrittenTerm} (h : cut? cs = some (t, rest)) :
    rest.length < cs.length := by
  obtain ⟨rfl, ht⟩ := text_append_of_cut? h
  have := List.length_pos_iff.2 ht
  simp only [List.length_append]
  omega

end WrittenTerm

namespace Lexeme

/-- The pieces of an expression. -/
def scan : List Char → List Lexeme
  | [] => []
  | c :: cs =>
    match h : WrittenTerm.cut? (c :: cs) with
    | some (t, rest) =>
      have := WrittenTerm.length_lt_of_cut? h
      .term t :: scan rest
    | none => .skipped c :: scan cs
termination_by cs => cs.length
decreasing_by
  · assumption
  · exact Nat.lt_succ_self cs.length

/-- The pieces of an expression, put together again, are the expression. -/
theorem flatMap_text_scan (cs : List Char) : (scan cs).flatMap text = cs := by
  fun_induction scan cs with
  | case1 => rfl
  | case2 c cs t rest h _ ih => simp [ih, text, (WrittenTerm.text_append_of_cut? h).1]
  | case3 c cs h ih => simp [ih, text]

/-- Every piece has at least one character. -/
theorem text_ne_nil_of_mem_scan {cs : List Char} {l : Lexeme} (h : l ∈ scan cs) : l.text ≠ [] := by
  fun_induction scan cs with
  | case1 => simp at h
  | case2 c cs t rest ht _ ih =>
    rcases List.mem_cons.1 h with rfl | h
    · exact (WrittenTerm.text_append_of_cut? ht).2
    · exact ih h
  | case3 c cs _ ih =>
    rcases List.mem_cons.1 h with rfl | h
    · simp [text]
    · exact ih h

end Lexeme

end PolySurvey
