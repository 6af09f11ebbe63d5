import Mathlib.Data.List.Basic
import PolySurvey.Proofs.Document.Lists

/-!
# Written documents

A written document is a list of sections, each of a title and at least one pair, with white space
after every title and every pair. Titles and pairs are its chunks: each of them stands on one line,
starts with a name and ends with no blank.
-/

namespace PolySurvey

open Text Grammar

/-- A letter or an underscore, and letters, digits and underscores after it. -/
structure Identifier where
  first : Char
  rest : List Char
  start : first.isAlpha = true ∨ first = '_'
  tail : ∀ c ∈ rest, c.isAlphanum = true ∨ c = '_'

/-- The text of a value. -/
structure Token where
  chars : List Char
  ne_nil : chars ≠ []
  plain : ∀ c ∈ chars, c ∉ [',', ';', ' ', '\t', '\r', '\n']
  head : ∀ c ∈ chars.head?, isBlank c = false
  last : ∀ c ∈ chars.getLast?, isBlank c = false

/-- Any number of spaces and tabs. -/
structure Gap where
  chars : List Char
  gaps : ∀ c ∈ chars, c = ' ' ∨ c = '\t'

/-- At least one space, tab or line feed. -/
structure Space where
  chars : List Char
  ne_nil : chars ≠ []
  spaces : ∀ c ∈ chars, c = ' ' ∨ c = '\t' ∨ c = '\n'

/-- A value after the first. -/
structure LaterToken where
  before : Gap
  after : Gap
  token : Token

/-- A pair as it is written: its key, the gap after the colon, and its values with what stands between
them. -/
structure WrittenPair where
  key : Identifier
  before : Gap
  after : Gap
  first : Token
  later : List LaterToken

/-- A section as it is written: its title, and its pairs with the space between them. -/
structure WrittenSection where
  title : Identifier
  space : Space
  pairs : List (WrittenPair × Space)
  ne_nil : pairs ≠ []

/-- How a name is written. -/
def Identifier.chars (i : Identifier) : List Char := i.first :: i.rest

/-- The name that is written. -/
def Identifier.name (i : Identifier) : String := String.ofList i.chars

/-- How a later value is written, with its comma and the gaps around it. -/
def LaterToken.text (t : LaterToken) : List Char :=
  t.before.chars ++ ',' :: (t.after.chars ++ t.token.chars)

namespace WrittenPair

/-- The text from the first value to the last. -/
def raw (p : WrittenPair) : List Char := p.first.chars ++ p.later.flatMap LaterToken.text

/-- How a pair is written. -/
def text (p : WrittenPair) : List Char :=
  p.key.chars ++ (p.before.chars ++ ':' :: (p.after.chars ++ p.raw))

/-- The values of a pair. -/
def tokens (p : WrittenPair) : List Token := p.first :: p.later.map LaterToken.token

/-- What a pair assigns to its key. -/
def field (p : WrittenPair) : Field :=
  ⟨String.ofList p.raw, p.tokens.map fun t => Value.ofText t.chars⟩

end WrittenPair

namespace WrittenSection

/-- How a section is written. -/
def text (s : WrittenSection) : List Char :=
  s.title.chars ++ (s.space.chars ++ s.pairs.flatMap fun (p, space) => p.text ++ space.chars)

/-- The last field of a key. -/
def field? (s : WrittenSection) (key : String) : Option Field :=
  (s.pairs.reverse.find? fun (p, _) => p.key.name = key).map fun (p, _) => p.field

/-- The last section of a title. -/
def last? (sections : List WrittenSection) (title : String) : Option WrittenSection :=
  sections.reverse.find? fun s => s.title.name = title

/-- A section as it is read. -/
def entry (s : WrittenSection) : String × List (String × Field) :=
  (s.title.name, s.pairs.map fun (p, _) => (p.key.name, p.field))

/-- The parts of a section between which there is white space. -/
def chunks (s : WrittenSection) : List (List Char) :=
  s.title.chars :: s.pairs.map fun (p, _) => p.text

end WrittenSection

/-! ## The chunks of a document -/

/-- A gap is made of gaps. -/
lemma Gap.isGap (g : Gap) : ∀ c ∈ g.chars, Grammar.isGap c = true := fun c hc => by
  simpa [Grammar.isGap] using g.gaps c hc

/-- Space is made of space. -/
lemma Space.isSpace (s : Space) : ∀ c ∈ s.chars, PolySurvey.isSpace c = true := fun c hc => by
  simpa [PolySurvey.isSpace, Grammar.isGap, or_assoc] using s.spaces c hc

/-- A token is made of characters that may stand in a value. -/
lemma Token.isValueChar (t : Token) : ∀ c ∈ t.chars, Grammar.isValueChar c = true := by
  intro c hc
  have plain := t.plain c hc
  simp only [List.mem_cons, List.not_mem_nil, or_false, not_or] at plain
  simp [Grammar.isValueChar, plain]

namespace Identifier

variable (i : Identifier)

/-- The first character of a name may begin one. -/
lemma isNameStart : Grammar.isNameStart i.first = true := by
  simpa [Grammar.isNameStart] using i.start

/-- The others may stand in one. -/
lemma isNameRest : ∀ c ∈ i.rest, Grammar.isNameRest c = true := fun c hc => by
  simpa [Grammar.isNameRest] using i.tail c hc

/-- All characters of a name may stand in one. -/
lemma isNameRest_chars : ∀ c ∈ i.chars, Grammar.isNameRest c = true :=
  List.forall_mem_cons.2 ⟨isNameRest_of_isNameStart i.isNameStart, i.isNameRest⟩

/-- A name is a chunk. -/
lemma isChunk : IsChunk i.chars where
  first := ⟨i.first, i.rest, rfl, i.isNameStart⟩
  last c hc := isBlank_of_isNameRest (i.isNameRest_chars c (List.mem_of_getLast? hc))
  feed hc := ne_of_kind (i.isNameRest_chars _ hc) (by decide) rfl
  ret hc := ne_of_kind (i.isNameRest_chars _ hc) (by decide) rfl

end Identifier

/-- What may stand in a name may stand in a value. -/
lemma isValueChar_of_isNameRest {c : Char} (h : isNameRest c = true) : isValueChar c = true := by
  have outside {d : Char} (hd : isNameRest d = false) : ¬ c = d := ne_of_kind h hd
  simp only [isValueChar, Bool.not_eq_true', Bool.or_eq_false_iff, decide_eq_false_iff_not]
  exact ⟨⟨⟨⟨⟨outside (by decide), outside (by decide)⟩, outside (by decide)⟩, outside (by decide)⟩,
    outside (by decide)⟩, outside (by decide)⟩

/-- A token is the text of a value. -/
lemma Token.isValueText (t : Token) : IsValueText t.chars := ⟨t.ne_nil, t.isValueChar⟩

/-- Tokens with commas between them are a list. -/
lemma listed_tokens (first : Token) (later : List LaterToken) :
    Listed (first.chars :: later.map fun t => t.token.chars)
      (first.chars ++ later.flatMap LaterToken.text) := by
  induction later generalizing first with
  | nil =>
    rw [List.flatMap_nil, List.append_nil]
    exact .single first.isValueText
  | cons t later ih =>
    simp only [List.flatMap_cons, LaterToken.text, List.append_assoc, List.cons_append]
    exact .cons first.isValueText t.before.isGap t.after.isGap (ih t.token)

/-- A later value does not end in a blank. -/
lemma LaterToken.last_text (t : LaterToken) : ∀ c ∈ t.text.getLast?, isBlank c = false := by
  rw [text, List.append_cons, ← List.append_assoc,
    List.getLast?_append_of_ne_nil _ t.token.ne_nil]
  exact t.token.last

/-- A text with later values after it ends as these do. -/
lemma last_flatMap_text {as : List Char} (h : ∀ c ∈ as.getLast?, isBlank c = false)
    (later : List LaterToken) :
    ∀ c ∈ (as ++ later.flatMap LaterToken.text).getLast?, isBlank c = false := by
  induction later generalizing as with
  | nil => simpa using h
  | cons t later ih =>
    have hne : t.text ≠ [] := by simp [LaterToken.text]
    rw [List.flatMap_cons, ← List.append_assoc]
    apply ih
    rw [List.getLast?_append_of_ne_nil _ hne]
    exact t.last_text

namespace WrittenPair

variable (p : WrittenPair)

/-- The values of a pair are a list. -/
lemma listed : Listed (p.tokens.map Token.chars) p.raw := by
  rw [tokens, List.map_cons, List.map_map]
  exact listed_tokens p.first p.later

/-- The list of a pair does not end in a blank. -/
lemma last_raw : ∀ c ∈ p.raw.getLast?, isBlank c = false := last_flatMap_text p.first.last p.later

/-- All of a pair may stand in one. -/
lemma isPairChar_text : ∀ c ∈ p.text, isPairChar c = true := by
  intro c hc
  simp only [text, List.mem_append, List.mem_cons] at hc
  rcases hc with hc | hc | rfl | hc | hc
  · exact isPairChar_of_isValueChar (isValueChar_of_isNameRest (p.key.isNameRest_chars c hc))
  · exact isPairChar_of_isGap (p.before.isGap c hc)
  · rfl
  · exact isPairChar_of_isGap (p.after.isGap c hc)
  · exact p.listed.isPairChar c hc

/-- A pair is a chunk. -/
lemma isChunk : IsChunk p.text where
  first := ⟨p.key.first, _, rfl, p.key.isNameStart⟩
  last := by
    rw [text, List.append_cons, ← List.append_assoc, ← List.append_assoc,
      List.getLast?_append_of_ne_nil _ p.listed.ne_nil]
    exact p.last_raw
  feed hc := ne_of_kind (p.isPairChar_text _ hc) (by decide) rfl
  ret hc := ne_of_kind (p.isPairChar_text _ hc) (by decide) rfl

end WrittenPair

/-- One chunk more, with space after it. -/
lemma Spaced.cons_space {chunk rest : List Char} {chunks : List (List Char)} (hc : IsChunk chunk)
    (space : Space) (h : Spaced chunks rest) :
    Spaced (chunk :: chunks) (chunk ++ (space.chars ++ rest)) :=
  .cons hc space.isSpace (fun none => absurd none space.ne_nil) h

/-- Pairs with space after each are chunks. -/
lemma spaced_pairs {rest : List Char} {chunks : List (List Char)} (h : Spaced chunks rest)
    (pairs : List (WrittenPair × Space)) :
    Spaced ((pairs.map fun (p, _) => p.text) ++ chunks)
      ((pairs.flatMap fun (p, space) => p.text ++ space.chars) ++ rest) := by
  induction pairs with
  | nil => exact h
  | cons pair pairs ih =>
    obtain ⟨p, space⟩ := pair
    simp only [List.map_cons, List.flatMap_cons, List.append_assoc, List.cons_append]
    exact .cons_space p.isChunk space ih

/-- The chunks of written sections stand in their text with white space between them. -/
lemma spaced_flatMap_text (sections : List WrittenSection) :
    Spaced (sections.flatMap WrittenSection.chunks) (sections.flatMap WrittenSection.text) := by
  induction sections with
  | nil => exact .nil
  | cons s sections ih =>
    have pairs := spaced_pairs ih s.pairs
    simp only [List.flatMap_cons, WrittenSection.chunks, WrittenSection.text, List.append_assoc,
      List.cons_append]
    exact .cons_space s.title.isChunk s.space pairs

end PolySurvey
