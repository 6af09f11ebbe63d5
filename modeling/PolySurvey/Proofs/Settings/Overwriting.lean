import PolySurvey.Proofs.Document.Alone
import PolySurvey.Proofs.Settings.Order

/-!
# What an overwritten entry hides

Of the sections with one title, and of the pairs with one key in a section, only the last counts, and
only what counts is looked at. So an entry that is refused by itself is reported where it counts, and
goes unnoticed where a later one takes its place.
-/

namespace PolySurvey

open Grammar Document

/-- A pair counts if it is the last of its key in the last section of its title. -/
def Document.Counts (sections : List (String × List (String × Field))) (title key : String)
    (field : Field) : Prop :=
  ∃ pairs, NameMap.lastOf title sections = some pairs ∧ NameMap.lastOf key pairs = some field

/-- The text of a pair by itself gives no settings, for a fault of the pair. -/
def Settings.ReportsAlone (title key : String) (list : List Char) : Prop :=
  ∃ e : TaskError, e.OfEntry ∧ Settings.ofText (alone title key list) = .error e

/-- The entries of a document are the pairs that count. -/
lemma Document.mem_entries_ofSections {sections : List (String × List (String × Field))}
    {entry : Entry} :
    entry ∈ (ofSections sections).entries ↔ Counts sections entry.title entry.key entry.field := by
  rw [mem_entries_iff distinct_ofSections, field?_ofSections, Option.bind_eq_some_iff, Counts]

/-- An entry without a value is refused. -/
lemma Entry.refused_of_empty (title key : String) : ∃ e, Entry.Refused ⟨title, key, ⟨"", []⟩⟩ e := by
  rcases Entry.sets_or_refused ⟨title, key, ⟨"", []⟩⟩ with ⟨t, v, sets⟩ | refused
  · cases sets.take
  · exact refused

/-- No setting but the expression takes an empty text. -/
lemma Entry.refused_of_blank {entry : Entry} (place : entry.place ≠ Setting.expression.place)
    (blank : entry.field.values = [.text ""]) : ∃ e, entry.Refused e := by
  rcases entry.sets_or_refused with ⟨t, v, sets⟩ | refused
  · have taken : t.read entry.field (.text "") = some v := by
      have take := sets.take
      rwa [Setting.take, Field.single?, blank] at take
    have nowhere : ∀ t : Setting, t ≠ .expression → t.read entry.field (.text "") = none := by
      intro t ne
      cases t <;> first | exact absurd rfl ne | rfl
    have ne : t ≠ .expression := fun eq => place (eq ▸ sets.place)
    cases (nowhere t ne).symm.trans taken
  · exact refused

namespace Settings

/-! ## Documents -/

/-- The entries of a document are accepted, and the domain is checked, or one of them is refused. -/
lemma ofDocument_cases (d : Document) :
    ((∀ entry ∈ d.entries, ∃ t v, entry.Sets t v) ∧
        ∃ s, applyAll {} d.entries = .ok s ∧ ofDocument d = s.checked) ∨
      ∃ entry ∈ d.entries, ∃ e, entry.Refused e ∧ ofDocument d = .error e := by
  rcases applyAll_cases {} d.entries with ⟨sets, s, ok⟩ | ⟨entry, mem, e, refused, error⟩
  · refine .inl ⟨sets, s, ok, ?_⟩
    rw [ofDocument, ok]
    rfl
  · refine .inr ⟨entry, mem, e, refused, ?_⟩
    rw [ofDocument, error]
    rfl

/-- A document fails for the fault of an entry where one is refused. -/
lemma exists_ofEntry_iff (d : Document) :
    (∃ e : TaskError, e.OfEntry ∧ ofDocument d = .error e) ↔
      ∃ entry ∈ d.entries, ∃ e, entry.Refused e := by
  rcases ofDocument_cases d with ⟨sets, s, -, eq⟩ | ⟨entry, mem, e, refused, error⟩
  · rw [eq]
    constructor
    · rintro ⟨e, ofEntry, error⟩
      rw [eq_invalidDomain_of_checked error] at ofEntry
      cases ofEntry
    · rintro ⟨entry, mem, e, refused⟩
      obtain ⟨t, v, sets⟩ := sets entry mem
      exact absurd refused sets.not_refused
  · exact ⟨fun _ => ⟨entry, mem, e, refused⟩, fun _ => ⟨e, refused.1, error⟩⟩

/-- A document fails where an entry is refused, or what it gives makes no domain that can be scanned. -/
lemma exists_error_ofDocument_iff {d : Document} (distinct : d.Distinct) :
    (∃ e, ofDocument d = .error e) ↔
      (∃ entry ∈ d.entries, ∃ e, entry.Refused e) ∨ ∃ s, d.Gives s ∧ s.domain.isValid = false := by
  rcases ofDocument_cases d with ⟨sets, s, ok, eq⟩ | ⟨entry, mem, e, refused, error⟩
  · have gives := gives_of_applyAll distinct (.refl _) ok
    rw [eq]
    constructor
    · rintro ⟨e, error⟩
      obtain rfl := eq_invalidDomain_of_checked error
      exact .inr ⟨s, gives, (checked_eq_invalidDomain_iff.1 error).2⟩
    · rintro (⟨entry, mem, e, refused⟩ | ⟨s', gives', invalid⟩)
      · obtain ⟨t, v, sets⟩ := sets entry mem
        exact absurd refused sets.not_refused
      · obtain rfl := gives.unique gives'
        exact ⟨_, checked_eq_invalidDomain_iff.2 ⟨rfl, invalid⟩⟩
  · exact ⟨fun _ => .inl ⟨entry, mem, e, refused⟩, fun _ => ⟨e, error⟩⟩

/-! ## Texts -/

/-- A pair by itself is reported where it is refused, and where its only value is nothing but white
space; it is not reported where such a value is the last of several. -/
lemma reportsAlone_iff (title key : Identifier) {list : List Char} {field : Field}
    (h : Lists list field) :
    ReportsAlone title.name key.name list ↔
      field.values = [.text ""] ∨
        field.values.getLast? ≠ some (.text "") ∧
          ∃ e, Entry.Refused ⟨title.name, key.name, field⟩ e := by
  have one (f : Field) (read : Document.read (alone title.name key.name list) =
      .ok [(title.name, [(key.name, f)])]) :
      ReportsAlone title.name key.name list ↔ ∃ e, Entry.Refused ⟨title.name, key.name, f⟩ e := by
    have entries : Document.entries [(title.name, [(key.name, f)])] =
        [⟨title.name, key.name, f⟩] := rfl
    rw [ReportsAlone, ofText, read]
    refine (exists_ofEntry_iff _).trans ?_
    simp only [entries, List.mem_singleton, exists_eq_left]
  -- Either the list is read as it is, or it is blank and gives one empty value, or its last value is
  -- blank and the document is no document.
  rcases read_alone_cases title key h with ⟨read, last⟩ | ⟨read, only⟩ | ⟨⟨e, error⟩, last, more⟩
  · rw [one field read]
    have notOnly : field.values ≠ [.text ""] := by
      intro only
      rw [only] at last
      exact last rfl
    simp [notOnly, last]
  · rw [one _ read]
    simp only [only, true_or, iff_true]
    exact Entry.refused_of_empty _ _
  · simp only [more, last, ne_eq, not_true_eq_false, false_and, or_false, iff_false]
    rintro ⟨e', ofEntry, failed⟩
    rw [ofText, error] at failed
    obtain rfl := Except.error.inj failed
    cases ofEntry

section

variable {text : String} {sections : List (String × List (String × Field))}

/-- A text fails where a pair that counts is refused, or what it gives makes no domain that can be
scanned. -/
lemma exists_error_ofText_iff (reads : ReadsAs text sections) :
    (∃ e, ofText text = .error e) ↔
      (∃ title key field, Counts sections title key field ∧
          ∃ e, Entry.Refused ⟨title, key, field⟩ e) ∨
        ∃ s, (ofSections sections).Gives s ∧ s.domain.isValid = false := by
  have read : Document.read text = .ok (ofSections sections) :=
    read_eq_ok_iff.2 ⟨sections, reads, rfl⟩
  rw [ofText, read]
  refine (exists_error_ofDocument_iff distinct_ofSections).trans (or_congr_left ?_)
  constructor
  · rintro ⟨entry, mem, refused⟩
    exact ⟨entry.title, entry.key, entry.field, mem_entries_ofSections.1 mem, refused⟩
  · rintro ⟨title, key, field, counts, refused⟩
    exact ⟨⟨title, key, field⟩, mem_entries_ofSections.2 counts, refused⟩

/-- The same of a pair that stands in a text. -/
lemma reportsAlone_iff_of_mem (reads : ReadsAs text sections)
    {entry : String × List (String × Field)} (mem : entry ∈ sections) {pair : String × Field}
    (mem' : pair ∈ entry.2) {list : List Char} (lists : Lists list pair.2) :
    ReportsAlone entry.1 pair.1 list ↔
      pair.2.values = [.text ""] ∨
        pair.2.values.getLast? ≠ some (.text "") ∧
          ∃ e, Entry.Refused ⟨entry.1, pair.1, pair.2⟩ e := by
  obtain ⟨rfl, -⟩ := reads
  have wellRead := (accounts_section.many _).1 entry mem
  obtain ⟨title, titled⟩ := wellRead.title
  obtain ⟨key, keyed⟩ := (wellRead.pairs pair mem').1
  rw [← titled, ← keyed]
  exact reportsAlone_iff title key lists

/-- No pair that counts goes unreported: if it fails by itself, the whole text fails. Only an expression
of nothing but white space may fail by itself and be accepted in a longer text. In full, the text fails
exactly if a pair that counts is refused or the domain cannot be scanned, and a pair by itself fails if
it is refused, whether it counts or not. -/
theorem exists_error_of_reportsAlone (reads : ReadsAs text sections) :
    (∀ entry ∈ sections, ∀ pair ∈ entry.2, ∀ list, Lists list pair.2 →
        Counts sections entry.1 pair.1 pair.2 →
        ((entry.1, pair.1) = ("function", "expression") → pair.2.values ≠ [.text ""]) →
        ReportsAlone entry.1 pair.1 list → ∃ e, ofText text = .error e) ∧
      ((∃ e, ofText text = .error e) ↔
        (∃ title key field, Counts sections title key field ∧
            ∃ e, Entry.Refused ⟨title, key, field⟩ e) ∨
          ∃ s, (ofSections sections).Gives s ∧ s.domain.isValid = false) ∧
      ∀ entry ∈ sections, ∀ pair ∈ entry.2, ∀ list, Lists list pair.2 →
        (ReportsAlone entry.1 pair.1 list ↔
          pair.2.values = [.text ""] ∨
            pair.2.values.getLast? ≠ some (.text "") ∧
              ∃ e, Entry.Refused ⟨entry.1, pair.1, pair.2⟩ e) := by
  refine ⟨fun entry mem pair mem' list lists counts visible reported => ?_,
    exists_error_ofText_iff reads,
    fun entry mem pair mem' list lists => reportsAlone_iff_of_mem reads mem mem' lists⟩
  have refused : ∃ e, Entry.Refused ⟨entry.1, pair.1, pair.2⟩ e := by
    rcases (reportsAlone_iff_of_mem reads mem mem' lists).1 reported with blank | ⟨-, refused⟩
    · exact Entry.refused_of_blank (fun place => visible place blank) blank
    · exact refused
  exact (exists_error_ofText_iff reads).2 (.inl ⟨_, _, _, counts, refused⟩)

end

/-- A value of nothing but white space is an empty expression, unless the document ends with it. -/
example :
    ofText "function expression:\u00a0 merge: overwrite" = .ok { expression := "" } ∧
      ofText (alone "function" "expression" ['\u00a0']) =
        .error (.invalidValue "function" "expression" "") := by
  decide +kernel

/-- An unknown key in the last section of its title. -/
theorem exists_error_of_reportsAlone_last :
    let text := "domain start: 0 domain stride: 1"
    let sections : List (String × List (String × Field)) :=
      [("domain", [("start", ⟨"0", [.integer 0]⟩)]), ("domain", [("stride", ⟨"1", [.integer 1]⟩)])]
    ReadsAs text sections ∧ ReportsAlone "domain" "stride" ['1'] ∧ ∃ e, ofText text = .error e := by
  intro text sections
  have reads : ReadsAs text sections := by
    unfold ReadsAs
    decide +kernel
  have reported : ReportsAlone "domain" "stride" ['1'] :=
    ⟨.unknownKey "domain" "stride", .unknownKey _ _, by decide +kernel⟩
  have lists : Lists ['1'] ⟨"1", [.integer 1]⟩ :=
    ⟨List.forall_mem_singleton.2 (by decide), rfl, .cons (by decide +kernel) .nil⟩
  have counts : Counts sections "domain" "stride" ⟨"1", [.integer 1]⟩ := ⟨_, rfl, rfl⟩
  have visible : ("domain", "stride") = ("function", "expression") →
      [Value.integer 1] ≠ [.text ""] := by decide
  refine ⟨reads, reported, ?_⟩
  exact (exists_error_of_reportsAlone reads).1 ("domain", [("stride", ⟨"1", [.integer 1]⟩)])
    (by simp [sections]) ("stride", ⟨"1", [.integer 1]⟩) (List.mem_singleton_self _) ['1'] lists counts
    visible reported

/-- An unknown key in a section whose title comes again goes unreported. -/
theorem not_exists_error_of_reportsAlone :
    let text := "domain stride: 1 domain start: 0"
    let sections : List (String × List (String × Field)) :=
      [("domain", [("stride", ⟨"1", [.integer 1]⟩)]), ("domain", [("start", ⟨"0", [.integer 0]⟩)])]
    ReadsAs text sections ∧ Lists ['1'] ⟨"1", [.integer 1]⟩ ∧
      ofText (alone "domain" "stride" ['1']) = .error (.unknownKey "domain" "stride") ∧
      ofText text = .ok { domain := ⟨0, 100, 0.01⟩ } := by
  refine ⟨?_, ⟨List.forall_mem_singleton.2 (by decide), rfl, .cons (by decide +kernel) .nil⟩,
    by decide +kernel, by decide +kernel⟩
  unfold ReadsAs
  decide +kernel

end Settings

end PolySurvey
