import PolySurvey.Proofs.Document.Lossless
import PolySurvey.Proofs.Settings.Order

/-!
# What a task file must say

A setting looks at the kind of its value: it takes counts, numbers, truth values or names, and refuses
everything else. A file gives settings where it is a text, the text is a document, each field of it is
taken by the setting at its place, and the bounds and the step make a domain that can be scanned.
-/

namespace PolySurvey

/-! ## Values -/

namespace Value

/-- A value that is a number: a double, or an integer, which is rounded to one. -/
def IsNumber (value : Value) (x : Float) : Prop :=
  value = .float x ∨ ∃ n, value = .integer n ∧ Float.ofInt n = x

/-- A value whose text, in small letters, is a name. -/
def IsNamed (value : Value) (name : String) : Prop :=
  String.ofList (value.display.toList.map Char.toLower) = name

/-- A value whose text, without blanks around it and in small letters, is one of the names of a level. -/
def IsLevel (value : Value) (level : LogLevel) : Prop :=
  (String.ofList ((Text.trim value.display.toList).map Char.toLower), level) ∈ LogLevel.names

end Value

namespace Setting

variable {t : Setting} {field : Field} {v : t.Datum}

/-- What a value must be so that a setting takes something from it. An expression is the text of the
field as it is written, whatever the value is. -/
def Accepts : (t : Setting) → Field → Value → t.Datum → Prop
  | .expression, field, _ => fun text => field.raw = text
  | .merge, _, value => fun policy => value.IsNamed (MergePolicy.name policy)
  | .derive, _, value => fun n => value = .integer (Int.ofNat n)
  | .start, _, value => value.IsNumber
  | .stop, _, value => value.IsNumber
  | .step, _, value => value.IsNumber
  | .collapse, _, value => fun b => value = .boolean b
  | .method, _, value => fun method => value.IsNamed (Refinement.name method)
  | .tolerance, _, value => value.IsNumber
  | .maxIterations, _, value => fun n => value = .integer (Int.ofNat n)
  | .logLevel, _, value => value.IsLevel
  | .logToFile, _, value => fun b => value = .boolean b

/-- A setting reads what it accepts. -/
lemma read_eq_some_iff {value : Value} : t.read field value = some v ↔ t.Accepts field value v := by
  cases t with
  | expression => exact Option.some_inj
  | merge => exact MergePolicy.ofName?_eq_some_iff
  | derive => exact Value.count?_eq_some_iff
  | start => exact Value.float?_eq_some_iff
  | stop => exact Value.float?_eq_some_iff
  | step => exact Value.float?_eq_some_iff
  | collapse => exact Value.boolean?_eq_some_iff
  | method => exact Refinement.ofName?_eq_some_iff
  | tolerance => exact Value.float?_eq_some_iff
  | maxIterations => exact Value.count?_eq_some_iff
  | logLevel => exact LogLevel.ofText?_eq_some_iff
  | logToFile => exact Value.boolean?_eq_some_iff

/-- A setting takes something from a field where it accepts the only value of it. -/
theorem take_eq_some_iff :
    t.take field = some v ↔ ∃ value, field.values = [value] ∧ t.Accepts field value v := by
  simp only [← read_eq_some_iff]
  rw [take, Field.single?]
  split
  · next value only => simp [only]
  · next several =>
    constructor
    · intro none
      cases none
    · rintro ⟨value, only, _⟩
      exact absurd only (several value)

end Setting

/-! ## Files -/

namespace Settings

open Document

variable {d : Document} {s : Settings}

/-- Settings are checked and found good where their domain can be scanned. -/
lemma checked_eq_ok_iff {s' : Settings} : s'.checked = .ok s ↔ s' = s ∧ s.domain.isValid = true := by
  unfold checked
  by_cases valid : s'.domain.isValid = true
  · rw [if_pos valid, Except.ok.injEq]
    refine ⟨?_, And.left⟩
    rintro rfl
    exact ⟨rfl, valid⟩
  · rw [if_neg valid]
    constructor
    · intro ok
      cases ok
    · rintro ⟨rfl, valid'⟩
      exact absurd valid' valid

/-- A document gives settings where all of its entries are accepted and what they give makes a domain
that can be scanned. -/
lemma ofDocument_eq_ok_iff (distinct : d.Distinct) :
    ofDocument d = .ok s ↔ d.Accepted ∧ d.Gives s ∧ s.domain.isValid = true := by
  rw [← and_assoc, ← applyAll_eq_ok_iff distinct (.refl _), ofDocument]
  cases result : applyAll {} d.entries with
  | error e =>
    constructor
    · intro ok
      cases ok
    · rintro ⟨ok, _⟩
      cases ok
  | ok s' =>
    rw [Except.ok.injEq]
    exact checked_eq_ok_iff

/-- No title and no key of a document that was read occurs twice. -/
lemma distinct_of_read {text : String} (read : Document.read text = .ok d) : d.Distinct := by
  obtain ⟨sections, _, rfl⟩ := read_eq_ok_iff.1 read
  exact distinct_ofSections

/-- A text gives settings where it is a document that does. -/
lemma ofText_eq_ok_iff {text : String} : ofText text = .ok s ↔
    ∃ d, Document.read text = .ok d ∧ d.Accepted ∧ d.Gives s ∧ s.domain.isValid = true := by
  unfold ofText
  cases read : Document.read text with
  | error e => simp
  | ok d => simp [ofDocument_eq_ok_iff (distinct_of_read read)]

/-- Bytes are read as the text that they are written from, or not at all. -/
lemma fromUTF8?_eq_some_iff {bytes : ByteArray} {text : String} :
    String.fromUTF8? bytes = some text ↔ bytes = text.toUTF8 := by
  unfold String.fromUTF8?
  constructor
  · intro found
    split at found
    · next valid =>
      rw [← Option.some.inj found]
      rfl
    · cases found
  · rintro rfl
    exact dif_pos text.isValidUTF8

/-- A file gives settings where its bytes are those of a text, the text is a document, each entry of
the document is accepted, and the domain that they make can be scanned. The settings are what the
document gives. -/
theorem ofBytes_eq_ok_iff {bytes : Except FileError ByteArray} : ofBytes bytes = .ok s ↔
    ∃ (text : String) (d : Document), bytes = .ok text.toUTF8 ∧ Document.read text = .ok d ∧
      d.Accepted ∧ d.Gives s ∧ s.domain.isValid = true := by
  simp only [exists_and_left, ← ofText_eq_ok_iff]
  unfold ofBytes
  cases bytes with
  | error e => simp
  | ok bytes =>
    simp only [Except.ok.injEq, ← fromUTF8?_eq_some_iff]
    cases String.fromUTF8? bytes <;> simp

end Settings

end PolySurvey
