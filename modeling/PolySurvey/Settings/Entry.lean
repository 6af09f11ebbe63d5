import PolySurvey.Settings.Basic

/-!
# Entries

An entry of a task document, a key under a title with its field, changes one setting or is not
acceptable. The settings of a document are the defaults after all of its entries, and its domain must
be one that can be scanned.
-/

namespace PolySurvey

/-- A key under a title with its field. -/
structure Entry where
  title : String
  key : String
  field : Field

namespace Entry

/-- What an entry sets. -/
def setting (entry : Entry) : Except TaskError Setting :=
  match Setting.places.lookup entry.title with
  | none => .error (.unknownSection entry.title)
  | some keys =>
    match keys.lookup entry.key with
    | none => .error (.unknownKey entry.title entry.key)
    | some setting => .ok setting

/-- The error of an entry whose values cannot be taken. -/
def invalid (entry : Entry) : TaskError :=
  .invalidValue entry.title entry.key
    (String.intercalate ", " (entry.field.values.map Value.display))

/-- What a function makes of the value of an entry. There must be exactly one value, and the function
must accept it. -/
def single {α : Type} (entry : Entry) (f : Value → Option α) : Except TaskError α :=
  match entry.field.values with
  | [value] =>
    match f value with
    | some a => .ok a
    | none => .error entry.invalid
  | _ => .error entry.invalid

/-- The thing of a name, which may be written in capital letters. -/
def named {α : Type} (ofName? : String → Option α) (value : Value) : Option α :=
  ofName? (String.ofList (value.display.toList.map Char.toLower))

/-- The settings after an entry. -/
def apply (entry : Entry) (s : Settings) : Except TaskError Settings := do
  match ← entry.setting with
  | .expression => return { s with expression := ← entry.single fun _ => some entry.field.raw }
  | .merge => return { s with merge := ← entry.single (named MergePolicy.ofName?) }
  | .derive => return { s with derive := ← entry.single Value.count? }
  | .start => return { s with domain := { s.domain with start := ← entry.single Value.float? } }
  | .stop => return { s with domain := { s.domain with stop := ← entry.single Value.float? } }
  | .step => return { s with domain := { s.domain with step := ← entry.single Value.float? } }
  | .collapse => return { s with collapse := ← entry.single Value.boolean? }
  | .method => return { s with refinement := ← entry.single (named Refinement.ofName?) }
  | .tolerance =>
    return { s with limits := { s.limits with tolerance := ← entry.single Value.float? } }
  | .maxIterations =>
    return { s with limits := { s.limits with maxIterations := ← entry.single Value.count? } }
  | .logLevel =>
    return { s with logLevel := ← entry.single fun value => LogLevel.ofText? value.display }
  | .logToFile => return { s with logToFile := ← entry.single Value.boolean? }

end Entry

/-- The entries of a document, section by section. -/
def Document.entries (document : Document) : List Entry :=
  document.flatMap fun (title, fields) => fields.map fun (key, field) => ⟨title, key, field⟩

namespace Settings

/-- The settings after a list of entries, or the error of the first that is not acceptable. -/
def applyAll (s : Settings) (entries : List Entry) : Except TaskError Settings :=
  entries.foldlM (fun s entry => entry.apply s) s

/-- The settings, if their domain can be scanned. -/
def checked (s : Settings) : Except TaskError Settings :=
  if s.domain.isValid then .ok s else .error (.invalidDomain s.domain)

/-- The settings that a document gives. -/
def ofDocument (document : Document) : Except TaskError Settings := do
  let s ← applyAll {} document.entries
  s.checked

/-- The settings that the text of a document gives. -/
def ofText (text : String) : Except TaskError Settings :=
  match Document.read text with
  | .ok document => ofDocument document
  | .error e => .error (.malformed e)

/-- The settings that the bytes of a file give, if it could be read. -/
def ofBytes (bytes : Except FileError ByteArray) : Except TaskError Settings :=
  match bytes with
  | .error e => .error (.file e)
  | .ok bytes =>
    match String.fromUTF8? bytes with
    | some text => ofText text
    | none => .error (.file .notText)

/-- The survey that the settings ask for. -/
def survey (s : Settings) : Except TermError Survey := do
  let polynomial ← Polynomial.parse s.expression s.merge
  return { polynomial, domain := s.domain, refinement := s.refinement, limits := s.limits,
           merge := s.merge, collapse := s.collapse }

end Settings

end PolySurvey
