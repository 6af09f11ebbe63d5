import PolySurvey.Document.Comment
import PolySurvey.Document.Grammar
import PolySurvey.Text.Quoted

/-!
# Task documents

A document maps titles to sections, and a section maps keys to fields. Of sections with the same
title, and of pairs with the same key in a section, the last one counts. The main statements say what
a look-up finds after an entry is put into a map.
-/

namespace PolySurvey

open Text

/-- A map from names, in the order in which they were first put. -/
abbrev NameMap (α : Type) := List (String × α)

namespace NameMap

variable {α : Type}

/-- Puts an entry in the place of the one with its name, or at the end. -/
def put (name : String) (a : α) : NameMap α → NameMap α
  | [] => [(name, a)]
  | (other, b) :: rest =>
    if other = name then (name, a) :: rest else (other, b) :: put name a rest

/-- The map of a list of entries; the last of a name counts. -/
def ofList (entries : List (String × α)) : NameMap α :=
  entries.foldl (fun map (name, a) => map.put name a) []

/-- The entry of a name. -/
def get? (name : String) : NameMap α → Option α
  | [] => none
  | (other, b) :: rest => if other = name then some b else get? name rest

/-- A name that was put is found, and no other name has changed. -/
theorem get?_put (map : NameMap α) (name other : String) (a : α) :
    (map.put name a).get? other = if name = other then some a else map.get? other := by
  induction map with
  | nil => rfl
  | cons entry rest ih =>
    obtain ⟨n, b⟩ := entry
    by_cases hn : n = name
    · subst hn
      by_cases h : n = other <;> simp [put, get?, h]
    · by_cases h : n = other
      · subst h
        simp [put, get?, hn, Ne.symm hn]
      · simp [put, get?, hn, h, ih]

end NameMap

/-- The fields of a section by key. -/
abbrev Section := NameMap Field

/-- The sections of a document by title. -/
abbrev Document := NameMap Section

/-- Why a text is not a document. -/
inductive SyntaxError where
  /-- Sections were read, but text is left after them. -/
  | leftover (rest : String)
  /-- Not even one section could be read. -/
  | refused (refusal : Refusal)
deriving DecidableEq

/-- How a missed part is called in messages. -/
def Expected.label : Expected → String
  | .mark => "Tag"
  | .value => "TakeWhile1"

/-- The wording of a syntax error. -/
def SyntaxError.message : SyntaxError → String
  | .leftover rest => "failed to parse entire document, remaining: '" ++ rest ++ "'"
  | .refused ⟨expected, rest⟩ =>
    "Error(Error \x7b input: " ++ String.ofList (quoted rest) ++ ", code: " ++ expected.label ++
      " \x7d)"

namespace Document

/-- The document of a list of sections. -/
def ofSections (sections : List (String × List (String × Field))) : Document :=
  NameMap.ofList (sections.map fun (title, pairs) => (title, NameMap.ofList pairs))

/-- Reads sections from the front of a text. -/
def readSections (cs : List Char) : Except Refusal (Document × List Char) := do
  let (sections, rest) ← Grammar.sectionReader.many1 cs
  return (ofSections sections, rest)

/-- Reads a whole text as a document. Remarks are dropped first, and then blanks at the start; a text
with nothing else is the empty document. -/
def read (text : String) : Except SyntaxError Document :=
  let cs := withoutRemarks text.toList
  if trim cs = [] then
    .ok []
  else
    match readSections (trimStart cs) with
    | .ok (document, rest) =>
      if trim rest = [] then .ok document else .error (.leftover (String.ofList rest))
    | .error refusal => .error (.refused refusal)

end Document

end PolySurvey
