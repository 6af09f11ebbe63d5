import PolySurvey.Document.Reader
import PolySurvey.Document.Value

/-!
# The grammar of task documents

A document is a list of sections, a section a title and a list of pairs, a pair a key, a colon and a
list of values with commas between them. A name, which may be a title or a key, is a letter or an
underscore with letters, digits and underscores after it. Blanks after a title and after a pair do not
count, nor do spaces and tabs around colons and commas.

The main statements say that the readers of names, pairs and sections leave less than they were given.
-/

namespace PolySurvey

open Text

/-- The values of a key, and the text they were read from. -/
structure Field where
  /-- The text of the values as it stands in the document, trimmed of blanks. -/
  raw : String
  values : List Value
deriving DecidableEq

namespace Grammar

/-- Whether a character is a space or a tab. -/
def isGap (c : Char) : Bool := c = ' ' || c = '\t'

/-- The text without the spaces and tabs it starts with. -/
def skipGap (cs : List Char) : List Char := cs.dropWhile isGap

/-- Whether a character may start a name. -/
def isNameStart (c : Char) : Bool := c.isAlpha || c = '_'

/-- Whether a character may stand in a name. -/
def isNameRest (c : Char) : Bool := c.isAlphanum || c = '_'

/-- Whether a character may stand in a value. -/
def isValueChar (c : Char) : Bool :=
  !(c = ',' || c = ' ' || c = '\t' || c = '\n' || c = '\r' || c = ';')

/-- A name, and what follows it. -/
def name : List Char → Except Refusal (String × List Char)
  | [] => .error ⟨.mark, []⟩
  | c :: cs =>
    if isNameStart c then
      .ok (String.ofList (c :: cs.takeWhile isNameRest), cs.dropWhile isNameRest)
    else
      .error ⟨.mark, c :: cs⟩

/-- A title: a name. What follows is trimmed of blanks. -/
def title (cs : List Char) : Except Refusal (String × List Char) := do
  let (name, rest) ← name cs
  return (name, trim rest)

/-- The text of a value, and what follows it. -/
def valueText (cs : List Char) : Except Refusal (List Char × List Char) :=
  if cs.takeWhile isValueChar = [] then
    .error ⟨.value, cs⟩
  else
    .ok (cs.takeWhile isValueChar, cs.dropWhile isValueChar)

/-- A value, and what follows it. -/
def value (cs : List Char) : Except Refusal (Value × List Char) := do
  let (text, rest) ← valueText cs
  return (.ofText text, rest)

/-- A comma with the text of a value after it. -/
def laterValueText (cs : List Char) : Except Refusal (List Char × List Char) :=
  match skipGap cs with
  | ',' :: rest => valueText (skipGap rest)
  | rest => .error ⟨.mark, rest⟩

/-- Dropping characters from the front makes no text longer. -/
theorem length_dropWhile_le (p : Char → Bool) (cs : List Char) :
    (cs.dropWhile p).length ≤ cs.length :=
  (List.dropWhile_suffix p).sublist.length_le

/-- Skipping a gap makes no text longer. -/
theorem length_skipGap_le (cs : List Char) : (skipGap cs).length ≤ cs.length :=
  length_dropWhile_le ..

/-- Trimming makes no text longer. -/
theorem length_trim_le (cs : List Char) : (trim cs).length ≤ cs.length := by
  simp only [trim, trimEnd, trimStart, List.length_reverse]
  exact Nat.le_trans (length_dropWhile_le ..) (by simpa using length_dropWhile_le ..)

/-- The text of a value takes characters from the front. -/
theorem length_lt_of_valueText {cs t rest : List Char} (h : valueText cs = .ok (t, rest)) :
    rest.length < cs.length := by
  unfold valueText at h
  split at h
  · simp at h
  · next hne =>
    obtain ⟨rfl, rfl⟩ := Prod.mk.inj (Except.ok.inj h)
    have := congrArg List.length (List.takeWhile_append_dropWhile (p := isValueChar) (l := cs))
    have := List.length_pos_iff.2 hne
    simp only [List.length_append] at *
    omega

/-- So does the text of a later value, with the comma before it. -/
theorem length_lt_of_laterValueText {cs t rest : List Char}
    (h : laterValueText cs = .ok (t, rest)) : rest.length < cs.length := by
  unfold laterValueText at h
  split at h
  · next tail htail =>
    have h1 := length_lt_of_valueText h
    have h2 := length_skipGap_le tail
    have h3 := length_skipGap_le cs
    simp only [htail, List.length_cons] at h3
    omega
  · simp at h

/-- The reader of the values after the first. -/
def laterValueReader : Reader (List Char) := ⟨laterValueText, length_lt_of_laterValueText⟩

/-- The texts of a list of values, which may be empty, and what follows it. A comma without a value
after it does not belong to the list. -/
def valueTexts (cs : List Char) : List (List Char) × List Char :=
  match valueText (skipGap cs) with
  | .ok (first, rest) =>
    let (later, rest) := laterValueReader.many rest
    (first :: later, rest)
  | .error _ => ([], skipGap cs)

/-- A list of values, and what follows it. -/
def values (cs : List Char) : List Value × List Char :=
  ((valueTexts cs).1.map Value.ofText, (valueTexts cs).2)

/-- The part of a text before a rest of it. -/
def before (cs rest : List Char) : List Char := cs.take (cs.length - rest.length)

/-- A key, a colon and a list of values. What follows is trimmed of blanks. -/
def pair (cs : List Char) : Except Refusal ((String × Field) × List Char) := do
  let (key, rest) ← name cs
  match skipGap rest with
  | ':' :: rest =>
    let text := skipGap rest
    let (values, rest) := values text
    return ((key, ⟨String.ofList (trim (before text rest)), values⟩), trim rest)
  | rest => throw ⟨.mark, rest⟩

/-- A name takes characters from the front. -/
theorem length_lt_of_name {cs rest : List Char} {s : String} (h : name cs = .ok (s, rest)) :
    rest.length < cs.length := by
  unfold name at h
  split at h
  · simp at h
  · next c cs =>
    split at h
    · obtain ⟨-, rfl⟩ := Prod.mk.inj (Except.ok.inj h)
      have := length_dropWhile_le isNameRest cs
      simp only [List.length_cons]
      omega
    · simp at h

/-- What is left after the values of a list is no longer than the text. -/
theorem length_valueTexts_le (cs : List Char) : (valueTexts cs).2.length ≤ cs.length := by
  have hs := length_skipGap_le cs
  unfold valueTexts
  split
  · next first rest h =>
    have h1 := length_lt_of_valueText h
    have h2 := laterValueReader.length_many_le rest
    simp only
    omega
  · exact hs

/-- A pair takes characters from the front. -/
theorem length_lt_of_pair {cs rest : List Char} {p : String × Field}
    (h : pair cs = .ok (p, rest)) : rest.length < cs.length := by
  unfold pair at h
  cases hn : name cs with
  | error e => simp [hn, bind, Except.bind] at h
  | ok q =>
    have h1 := length_lt_of_name hn
    simp only [hn, bind, Except.bind] at h
    split at h
    · next tail htail =>
      obtain ⟨-, rfl⟩ := Prod.mk.inj (Except.ok.inj h)
      have h2 := length_skipGap_le q.2
      have h3 := length_skipGap_le tail
      have h4 := length_valueTexts_le (skipGap tail)
      have h5 := length_trim_le (values (skipGap tail)).2
      simp only [htail, List.length_cons] at h2
      simp only [values] at h5 ⊢
      omega
    · simp [throw, throwThe, MonadExceptOf.throw] at h

/-- The reader of pairs. -/
def pairReader : Reader (String × Field) := ⟨pair, length_lt_of_pair⟩

/-- A section: a title and at least one pair. -/
def titledPairs (cs : List Char) :
    Except Refusal ((String × List (String × Field)) × List Char) := do
  let (title, rest) ← title (skipGap cs)
  let (pairs, rest) ← pairReader.many1 rest
  return ((title, pairs), rest)

/-- A section takes characters from the front. -/
theorem length_lt_of_titledPairs {cs rest : List Char} {p : String × List (String × Field)}
    (h : titledPairs cs = .ok (p, rest)) : rest.length < cs.length := by
  have hs := length_skipGap_le cs
  unfold titledPairs title at h
  cases hn : name (skipGap cs) with
  | error e => simp [hn, bind, Except.bind] at h
  | ok q =>
    have h1 := length_lt_of_name hn
    have h2 := length_trim_le q.2
    cases hp : pairReader.many1 (trim q.2) with
    | error e => simp [hn, hp, bind, Except.bind, pure, Except.pure] at h
    | ok r =>
      have h3 := pairReader.length_lt_of_many1 hp
      simp only [hn, hp, bind, Except.bind, pure, Except.pure] at h
      obtain ⟨-, rfl⟩ := Prod.mk.inj (Except.ok.inj h)
      omega

/-- The reader of sections. -/
def sectionReader : Reader (String × List (String × Field)) :=
  ⟨titledPairs, length_lt_of_titledPairs⟩

end Grammar

end PolySurvey
