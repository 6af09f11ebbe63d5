import Mathlib.Data.List.Perm.Basic
import PolySurvey.Proofs.Document.Maps
import PolySurvey.Proofs.Settings.Change

/-!
# The order of a document does not matter

The sections of a document, and the keys in a section, may be visited in any order. Each setting gets
the value of the field at its own place, or keeps its default, so the settings are determined by the
fields of the document (`Document.Gives`); whether there are any depends on each entry by itself.
-/

namespace PolySurvey

namespace Document

/-- The same sections in another order, and in each of them the same keys in another order. -/
def Reordered (d d' : Document) : Prop :=
  ∃ mid : Document, d.Perm mid ∧ List.Forall₂ (fun s t => s.1 = t.1 ∧ s.2.Perm t.2) mid d'

/-- What a document gives for a setting: the value of the field at its place, or the default where no
field stands. -/
def Given (d : Document) (t : Setting) (v : t.Datum) : Prop :=
  match d.field? t.place.1 t.place.2 with
  | some field => t.take field = some v
  | none => v = t.get {}

/-- Each setting holds what a document gives for it. -/
def Gives (d : Document) (s : Settings) : Prop := ∀ t : Setting, d.Given t (t.get s)

/-- Each entry by itself can be applied. -/
def Accepted (d : Document) : Prop := ∀ entry ∈ d.entries, ∃ s, entry.apply {} = .ok s

/-- Every entry is accepted, but the bounds and the step that the document gives make a domain that
cannot be scanned. -/
structure Misplaces (d : Document) (domain : Domain) : Prop where
  accepted : d.Accepted
  start : d.Given .start domain.start
  stop : d.Given .stop domain.stop
  step : d.Given .step domain.step
  invalid : domain.isValid = false

/-! ## The entries of a document -/

/-- The entries of a document are its fields at their places. -/
lemma mem_entries_iff {d : Document} (h : d.Distinct) {entry : Entry} :
    entry ∈ d.entries ↔ d.field? entry.title entry.key = some entry.field := by
  obtain ⟨title, key, field⟩ := entry
  simp only [entries, List.mem_flatMap, List.mem_map, field?, Option.bind_eq_some_iff]
  constructor
  · rintro ⟨⟨_, fields⟩, titled, ⟨_, _⟩, keyed, ⟨⟩⟩
    exact ⟨fields, (NameMap.get?_eq_some_iff_mem h.titles).2 titled,
      (NameMap.get?_eq_some_iff_mem (h.keys _ titled)).2 keyed⟩
  · rintro ⟨fields, found, held⟩
    have titled := (NameMap.get?_eq_some_iff_mem h.titles).1 found
    exact ⟨_, titled, _, (NameMap.get?_eq_some_iff_mem (h.keys _ titled)).1 held, rfl⟩

/-- No two entries stand at the same place. -/
lemma pairwise_entries {d : Document} (h : d.Distinct) :
    d.entries.Pairwise fun a b => a.place ≠ b.place := by
  have keys : ∀ s ∈ d, s.2.Pairwise fun a b => a.1 ≠ b.1 := fun s hs =>
    List.pairwise_map.1 (h.keys s hs)
  have titles : d.Pairwise fun a b => a.1 ≠ b.1 := List.pairwise_map.1 h.titles
  refine List.pairwise_flatMap.2 ⟨fun s hs => List.pairwise_map.2 ?_, titles.imp ?_⟩
  · exact (keys s hs).imp fun apart same => apart (Prod.mk.inj same).2
  · intro s t apart a ha b hb same
    obtain ⟨_, _, rfl⟩ := List.mem_map.1 ha
    obtain ⟨_, _, rfl⟩ := List.mem_map.1 hb
    exact apart (Prod.mk.inj same).1

/-- Another order of the keys in each section is another order of the entries. -/
lemma entries_perm_of_forall₂ {d d' : Document}
    (h : List.Forall₂ (fun s t => s.1 = t.1 ∧ s.2.Perm t.2) d d') : d.entries.Perm d'.entries := by
  induction h with
  | nil => exact .refl _
  | @cons s t _ _ same _ ih =>
    obtain ⟨title, fields⟩ := s
    obtain ⟨rfl, keys⟩ := same
    exact (keys.map _).append ih

/-- Another order of a document is another order of its entries. -/
lemma Reordered.entries_perm {d d' : Document} (h : d.Reordered d') : d.entries.Perm d'.entries := by
  obtain ⟨mid, titles, keys⟩ := h
  exact (titles.flatMap_right _).trans (entries_perm_of_forall₂ keys)

/-- What a document gives for a setting is one value. -/
lemma Given.unique {d : Document} {t : Setting} {v w : t.Datum} (hv : d.Given t v)
    (hw : d.Given t w) : v = w := by
  unfold Given at hv hw
  cases found : d.field? t.place.1 t.place.2 with
  | some field =>
    rw [found] at hv hw
    exact Option.some.inj (hv.symm.trans hw)
  | none =>
    rw [found] at hv hw
    exact hv.trans hw.symm

/-- A document gives one result. -/
lemma Gives.unique {d : Document} {s s' : Settings} (hs : d.Gives s) (hs' : d.Gives s') : s = s' :=
  Setting.ext_get fun t => (hs t).unique (hs' t)

/-! ## Entries in any order -/

variable {d d' : Document} {entries : List Entry}

/-- Entries of a document in any order give the settings what the document gives. -/
lemma gives_of_applyAll (distinct : d.Distinct) (order : d.entries.Perm entries) {s : Settings}
    (h : Settings.applyAll {} entries = .ok s) : d.Gives s := by
  have apart := order.pairwise (pairwise_entries distinct) Ne.symm
  intro t
  obtain ⟨own, other⟩ := Settings.get_applyAll h apart t
  unfold Given
  split
  · next field found =>
    have mem : ⟨t.place.1, t.place.2, field⟩ ∈ d.entries := (mem_entries_iff distinct).2 found
    exact own _ (order.mem_iff.1 mem) rfl
  · next absent =>
    refine other fun entry mem here => ?_
    have found := (mem_entries_iff distinct).1 (order.mem_iff.2 mem)
    rw [← here] at absent
    cases absent.symm.trans found

/-- Entries of a document in any order are accepted where each is by itself. -/
lemma accepted_iff_exists_ok (order : d.entries.Perm entries) :
    d.Accepted ↔ ∃ s, Settings.applyAll {} entries = .ok s := by
  rcases Settings.applyAll_cases {} entries with ⟨sets, ok⟩ | ⟨entry, mem, e, refused, error⟩
  · refine ⟨fun _ => ok, fun _ entry mem => ?_⟩
    obtain ⟨t, v, sets⟩ := sets entry (order.mem_iff.1 mem)
    exact ⟨_, sets.apply {}⟩
  · constructor
    · intro accepted
      obtain ⟨s, ok⟩ := accepted entry (order.mem_iff.2 mem)
      cases ok.symm.trans (refused.2 {})
    · rintro ⟨s, ok⟩
      cases error.symm.trans ok

/-- Where an entry is not accepted, entries in any order fail. -/
lemma exists_error_of_not_accepted (order : d.entries.Perm entries) (h : ¬ d.Accepted) :
    ∃ e, Settings.applyAll {} entries = .error e := by
  cases result : Settings.applyAll {} entries with
  | ok s => exact absurd ((accepted_iff_exists_ok order).2 ⟨s, result⟩) h
  | error e => exact ⟨e, rfl⟩

/-- Entries of a document in any order give settings if they are accepted, and these are what the
document gives. -/
lemma applyAll_eq_ok_iff (distinct : d.Distinct) (order : d.entries.Perm entries) {s : Settings} :
    Settings.applyAll {} entries = .ok s ↔ d.Accepted ∧ d.Gives s := by
  constructor
  · intro ok
    exact ⟨(accepted_iff_exists_ok order).2 ⟨s, ok⟩, gives_of_applyAll distinct order ok⟩
  · rintro ⟨accepted, gives⟩
    obtain ⟨s', ok⟩ := (accepted_iff_exists_ok order).1 accepted
    rw [ok, (gives_of_applyAll distinct order ok).unique gives]

/-- If all entries but one are accepted, the error is that of the one. -/
lemma applyAll_eq_error_of_unique (order : d.entries.Perm entries) {entry : Entry} {e : TaskError}
    (mem : entry ∈ d.entries) (error : entry.apply {} = .error e)
    (others : ∀ other ∈ d.entries, other ≠ entry → ∃ s, other.apply {} = .ok s) :
    Settings.applyAll {} entries = .error e := by
  rcases Settings.applyAll_cases {} entries with ⟨sets, -⟩ | ⟨entry', mem', e', refused, first⟩
  · obtain ⟨t, v, sets⟩ := sets entry (order.mem_iff.1 mem)
    cases (sets.apply {}).symm.trans error
  · obtain rfl : entry' = entry := by
      by_contra ne
      obtain ⟨s, ok⟩ := others entry' (order.mem_iff.2 mem') ne
      cases ok.symm.trans (refused.2 {})
    rw [first, ← refused.2 {}, error]

/-- The domain is the error where entries in some order are accepted and give a domain that cannot be
scanned. -/
lemma checked_applyAll_iff_misplaces (distinct : d.Distinct) (order : d.entries.Perm entries)
    (domain : Domain) :
    (Settings.applyAll {} entries >>= Settings.checked) = .error (.invalidDomain domain) ↔
      d.Misplaces domain := by
  -- Only settings that were accepted are checked, so an entry that is refused hides the domain.
  rcases Settings.applyAll_cases {} entries with ⟨-, s, ok⟩ | ⟨entry, mem, e, refused, error⟩
  · obtain ⟨accepted, gives⟩ := (applyAll_eq_ok_iff distinct order).1 ok
    rw [ok]
    refine Settings.checked_eq_invalidDomain_iff.trans ⟨?_, fun misplaces => ?_⟩
    · rintro ⟨rfl, invalid⟩
      exact ⟨accepted, gives .start, gives .stop, gives .step, invalid⟩
    · refine ⟨?_, misplaces.invalid⟩
      have start : s.domain.start = domain.start := (gives .start).unique misplaces.start
      have stop : s.domain.stop = domain.stop := (gives .stop).unique misplaces.stop
      have step : s.domain.step = domain.step := (gives .step).unique misplaces.step
      calc s.domain = ⟨s.domain.start, s.domain.stop, s.domain.step⟩ := rfl
        _ = domain := by rw [start, stop, step]
  · rw [error]
    constructor
    · intro same
      obtain rfl := Except.error.inj same
      cases refused.1
    · intro misplaces
      obtain ⟨s, ok⟩ := misplaces.accepted entry (order.mem_iff.2 mem)
      cases ok.symm.trans (refused.2 {})

end Document

namespace Settings

open Document

/-- The settings of a document do not depend on the order of its sections and keys. If each entry is
accepted, both orders give the same settings, each the value of its own field or its default, and if
not, neither order gives any; if one entry is refused and no other, its error is that of both; and the
domain is the error in either order where all entries are accepted but what they give makes no domain
that can be scanned. -/
theorem ofDocument_reordered {d d' : Document} (distinct : d.Distinct) (order : d.Reordered d') :
    ((d.Accepted ∧
          ∃ s, applyAll {} d.entries = .ok s ∧ applyAll {} d'.entries = .ok s ∧ d.Gives s) ∨
        (¬ d.Accepted ∧
          ∃ e e', applyAll {} d.entries = .error e ∧ applyAll {} d'.entries = .error e')) ∧
      (∀ entry ∈ d.entries, ∀ e, entry.apply {} = .error e →
        (∀ other ∈ d.entries, other ≠ entry → ∃ s, other.apply {} = .ok s) →
        ofDocument d = .error e ∧ ofDocument d' = .error e) ∧
      ∀ domain, (ofDocument d = .error (.invalidDomain domain) ↔ d.Misplaces domain) ∧
        (ofDocument d' = .error (.invalidDomain domain) ↔ d.Misplaces domain) := by
  -- each order is compared with what the document gives, not with the other
  have perm := order.entries_perm
  refine ⟨?_, fun entry mem e error others => ?_, fun domain => ?_⟩
  · by_cases accepted : d.Accepted
    · obtain ⟨s, ok⟩ := (accepted_iff_exists_ok (.refl _)).1 accepted
      have given := (applyAll_eq_ok_iff distinct (.refl _)).1 ok
      exact .inl ⟨accepted, s, ok, (applyAll_eq_ok_iff distinct perm).2 given, given.2⟩
    · obtain ⟨e, error⟩ := exists_error_of_not_accepted (.refl _) accepted
      obtain ⟨e', error'⟩ := exists_error_of_not_accepted perm accepted
      exact .inr ⟨accepted, e, e', error, error'⟩
  · constructor
    · rw [ofDocument, applyAll_eq_error_of_unique (.refl _) mem error others]
      rfl
    · rw [ofDocument, applyAll_eq_error_of_unique perm mem error others]
      rfl
  · exact ⟨checked_applyAll_iff_misplaces distinct (.refl _) domain,
      checked_applyAll_iff_misplaces distinct perm domain⟩

/-- Bounds the wrong way round, below a section without fault. -/
theorem ofDocument_reordered_bounds :
    let f : String × Section := ("function", [("derive", ⟨"2", [.integer 2]⟩)])
    let start : String × Field := ("start", ⟨"5", [.integer 5]⟩)
    let stop : String × Field := ("end", ⟨"-5", [.integer (-5)]⟩)
    let d : Document := [f, ("domain", [start, stop])]
    let d' : Document := [("domain", [stop, start]), f]
    d.Distinct ∧ d.Reordered d' ∧
      (∃ s, applyAll {} d.entries = .ok s ∧ applyAll {} d'.entries = .ok s ∧ d.Gives s) ∧
      ofDocument d' = .error (.invalidDomain ⟨5, -5, 0.01⟩) := by
  intro f start stop d d'
  have distinct : d.Distinct := ⟨by decide, by decide⟩
  have order : d.Reordered d' := by
    refine ⟨[("domain", [start, stop]), f], List.Perm.swap .., ?_⟩
    exact .cons ⟨rfl, List.Perm.swap ..⟩ (.cons ⟨rfl, .refl _⟩ .nil)
  have listed : d.entries = [⟨"function", "derive", ⟨"2", [.integer 2]⟩⟩,
      ⟨"domain", start.1, start.2⟩, ⟨"domain", stop.1, stop.2⟩] := rfl
  have accepted : d.Accepted := by
    rw [Accepted, listed]
    simp only [List.forall_mem_cons]
    exact ⟨⟨_, rfl⟩, ⟨_, rfl⟩, ⟨_, rfl⟩, List.forall_mem_nil _⟩
  obtain ⟨both, -, invalid⟩ := ofDocument_reordered distinct order
  refine ⟨distinct, order, (both.resolve_right fun none => none.1 accepted).2,
    (invalid _).2.2 ⟨accepted, ?_, ?_, rfl, ?_⟩⟩
  · change some (Float.ofInt 5) = some (5 : Float)
    decide +kernel
  · change some (Float.ofInt (-5)) = some (-5 : Float)
    decide +kernel
  · decide +kernel

end Settings

end PolySurvey
