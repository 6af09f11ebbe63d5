import Mathlib.Tactic.Lemma
import PolySurvey.Settings.Entry

/-!
# What an entry changes

Each setting has a place in a document and takes a value from the field that stands there. An entry
that stands at the place of a setting, and from whose field the setting takes a value, puts the value
into the settings (`Entry.Sets`). Every other entry is refused, whatever the settings are. So a list
of entries at different places gives each setting the value of its own entry, or leaves it as it is.
-/

namespace PolySurvey

/-- What a function makes of the single value of a field. -/
def Field.single? {α : Type} (field : Field) (f : Value → Option α) : Option α :=
  match field.values with
  | [v] => f v
  | _ => none

namespace Setting

/-- What a setting holds. -/
def Datum : Setting → Type
  | .expression => String
  | .merge => MergePolicy
  | .derive => Nat
  | .start => Float
  | .stop => Float
  | .step => Float
  | .collapse => Bool
  | .method => Refinement
  | .tolerance => Float
  | .maxIterations => Nat
  | .logLevel => LogLevel
  | .logToFile => Bool

/-- What settings hold at one of them. -/
def get : (t : Setting) → Settings → t.Datum
  | .expression, s => s.expression
  | .merge, s => s.merge
  | .derive, s => s.derive
  | .start, s => s.domain.start
  | .stop, s => s.domain.stop
  | .step, s => s.domain.step
  | .collapse, s => s.collapse
  | .method, s => s.refinement
  | .tolerance, s => s.limits.tolerance
  | .maxIterations, s => s.limits.maxIterations
  | .logLevel, s => s.logLevel
  | .logToFile, s => s.logToFile

/-- The settings with one of them changed. -/
def put : (t : Setting) → t.Datum → Settings → Settings
  | .expression, v, s => { s with expression := v }
  | .merge, v, s => { s with merge := v }
  | .derive, v, s => { s with derive := v }
  | .start, v, s => { s with domain := { s.domain with start := v } }
  | .stop, v, s => { s with domain := { s.domain with stop := v } }
  | .step, v, s => { s with domain := { s.domain with step := v } }
  | .collapse, v, s => { s with collapse := v }
  | .method, v, s => { s with refinement := v }
  | .tolerance, v, s => { s with limits := { s.limits with tolerance := v } }
  | .maxIterations, v, s => { s with limits := { s.limits with maxIterations := v } }
  | .logLevel, v, s => { s with logLevel := v }
  | .logToFile, v, s => { s with logToFile := v }

/-- The title and the key under which a document gives a setting. -/
def place : Setting → String × String
  | .expression => ("function", "expression")
  | .merge => ("function", "merge")
  | .derive => ("function", "derive")
  | .start => ("domain", "start")
  | .stop => ("domain", "end")
  | .step => ("domain", "step")
  | .collapse => ("domain", "collapse")
  | .method => ("refinement", "method")
  | .tolerance => ("refinement", "tolerance")
  | .maxIterations => ("refinement", "max_iterations")
  | .logLevel => ("logging", "loglevel")
  | .logToFile => ("logging", "logfile")

/-- What a setting makes of the value of a field. An expression is the text of the field as it is
written; numbers, names and truth values are those of the value. -/
def read : (t : Setting) → Field → Value → Option t.Datum
  | .expression, field => fun _ => some field.raw
  | .merge, _ => Entry.named MergePolicy.ofName?
  | .derive, _ => Value.count?
  | .start, _ => Value.float?
  | .stop, _ => Value.float?
  | .step, _ => Value.float?
  | .collapse, _ => Value.boolean?
  | .method, _ => Entry.named Refinement.ofName?
  | .tolerance, _ => Value.float?
  | .maxIterations, _ => Value.count?
  | .logLevel, _ => fun value => LogLevel.ofText? value.display
  | .logToFile, _ => Value.boolean?

/-- What a setting takes from a field, which must have a single value. -/
def take (t : Setting) (field : Field) : Option t.Datum := field.single? (t.read field)

/-- What was put into a setting is what it holds. -/
@[simp] lemma get_put_self (t : Setting) (v : t.Datum) (s : Settings) : t.get (t.put v s) = v := by
  cases t <;> rfl

/-- All other settings hold what they held before. -/
lemma get_put_of_ne {t u : Setting} (h : u ≠ t) (v : t.Datum) (s : Settings) :
    u.get (t.put v s) = u.get s := by
  cases t <;> cases u <;> first | rfl | exact absurd rfl h

/-- Settings are what they hold. -/
lemma ext_get {s s' : Settings} (h : ∀ t : Setting, t.get s = t.get s') : s = s' := by
  obtain ⟨_, _, _, ⟨_, _, _⟩, _, _, ⟨_, _⟩, _, _⟩ := s
  obtain ⟨_, _, _, ⟨_, _, _⟩, _, _, ⟨_, _⟩, _, _⟩ := s'
  simp only [Settings.mk.injEq, Domain.mk.injEq, RefineLimits.mk.injEq]
  exact ⟨h .expression, h .merge, h .derive, ⟨h .start, h .stop, h .step⟩, h .collapse, h .method,
    ⟨h .tolerance, h .maxIterations⟩, h .logLevel, h .logToFile⟩

end Setting

/-- An error about one entry of a document. -/
inductive TaskError.OfEntry : TaskError → Prop where
  | unknownSection (title : String) : OfEntry (.unknownSection title)
  | unknownKey (title key : String) : OfEntry (.unknownKey title key)
  | invalidValue (title key values : String) : OfEntry (.invalidValue title key values)

namespace Entry

/-- The title and the key of an entry. -/
def place (entry : Entry) : String × String := (entry.title, entry.key)

/-- An entry gives a value to a setting. -/
structure Sets (entry : Entry) (t : Setting) (v : t.Datum) : Prop where
  place : entry.place = t.place
  take : t.take entry.field = some v

/-- An entry is refused, whatever the settings are. -/
def Refused (entry : Entry) (e : TaskError) : Prop := e.OfEntry ∧ ∀ s, entry.apply s = .error e

/-! ## One entry -/

/-- An entry is of a setting where it stands at its place. -/
lemma setting_eq_ok_iff {entry : Entry} {t : Setting} :
    entry.setting = .ok t ↔ entry.place = t.place := by
  have listed : ∀ p ∈ Setting.places, ∀ q ∈ p.2, (p.1, q.1) = q.2.place := by decide
  constructor
  · intro h
    unfold setting at h
    split at h
    · cases h
    · next keys titled =>
      split at h
      · cases h
      · next u keyed =>
        obtain rfl := Except.ok.inj h
        obtain ⟨_, _, split, _⟩ := List.lookup_eq_some_iff.1 titled
        obtain ⟨_, _, split', _⟩ := List.lookup_eq_some_iff.1 keyed
        exact listed (_, keys) (by simp [split]) (_, u) (by simp [split'])
  · intro h
    obtain ⟨title, key, field⟩ := entry
    obtain ⟨rfl, rfl⟩ := Prod.mk.inj h
    cases t <;> rfl

/-- A change that takes the single value of an entry happens where the value is accepted. -/
lemma bind_single {α : Type} (entry : Entry) (f : Value → Option α) (change : α → Settings) :
    (entry.single f >>= fun a => .ok (change a)) =
      match entry.field.single? f with
      | some a => .ok (change a)
      | none => .error entry.invalid := by
  rw [single, Field.single?]
  generalize entry.field.values = values
  rcases values with _ | ⟨v, _ | ⟨_, _⟩⟩
  · rfl
  · dsimp only
    cases f v <;> rfl
  · rfl

/-- What an entry does at the place of a setting. -/
lemma apply_of_setting {entry : Entry} {t : Setting} (h : entry.setting = .ok t) (s : Settings) :
    entry.apply s =
      match t.take entry.field with
      | some v => .ok (t.put v s)
      | none => .error entry.invalid := by
  have changed : entry.apply s = entry.single (t.read entry.field) >>= fun v => .ok (t.put v s) := by
    rw [apply, h]
    cases t <;> rfl
  rw [changed, bind_single, Setting.take]
  cases entry.field.single? (t.read entry.field) <;> rfl

/-- An entry that gives a value puts it into its setting, whatever the settings are. -/
lemma Sets.apply {entry : Entry} {t : Setting} {v : t.Datum} (h : entry.Sets t v) (s : Settings) :
    entry.apply s = .ok (t.put v s) := by
  rw [apply_of_setting (setting_eq_ok_iff.2 h.place), h.take]

/-- An entry that gives a value is not refused. -/
lemma Sets.not_refused {entry : Entry} {t : Setting} {v : t.Datum} (h : entry.Sets t v) {e : TaskError} :
    ¬ entry.Refused e := by
  intro refused
  cases (h.apply {}).symm.trans (refused.2 {})

/-- An entry gives a value to a setting, or it is refused. -/
lemma sets_or_refused (entry : Entry) : (∃ t v, entry.Sets t v) ∨ ∃ e, entry.Refused e := by
  cases found : entry.setting with
  | error e =>
    refine .inr ⟨e, ?_, fun s => by rw [apply, found]; rfl⟩
    unfold setting at found
    split at found
    · obtain rfl := Except.error.inj found
      exact .unknownSection _
    · split at found
      · obtain rfl := Except.error.inj found
        exact .unknownKey _ _
      · cases found
  | ok t =>
    cases taken : t.take entry.field with
    | none =>
      refine .inr ⟨entry.invalid, .invalidValue _ _ _, fun s => ?_⟩
      rw [apply_of_setting found, taken]
    | some v => exact .inl ⟨t, v, setting_eq_ok_iff.1 found, taken⟩

end Entry

/-! ## A list of entries -/

namespace Settings

variable {s s' : Settings} {entries : List Entry}

/-- Entries are applied one after the other if every one of them gives a value to a setting, and the
first that is refused gives the error. -/
lemma applyAll_cases (s : Settings) (entries : List Entry) :
    ((∀ entry ∈ entries, ∃ t v, entry.Sets t v) ∧ ∃ s', applyAll s entries = .ok s') ∨
      ∃ entry ∈ entries, ∃ e, entry.Refused e ∧ applyAll s entries = .error e := by
  induction entries generalizing s with
  | nil => exact .inl ⟨List.forall_mem_nil _, s, rfl⟩
  | cons entry entries ih =>
    rcases entry.sets_or_refused with ⟨t, v, sets⟩ | ⟨e, refused⟩
    -- whether a later entry is refused does not depend on what this one changes
    · have step : applyAll s (entry :: entries) = applyAll (t.put v s) entries := by
        rw [applyAll, List.foldlM_cons, sets.apply]
        rfl
      rw [step]
      rcases ih (t.put v s) with ⟨later, result⟩ | ⟨other, mem, e, refused⟩
      · exact .inl ⟨List.forall_mem_cons.2 ⟨⟨t, v, sets⟩, later⟩, result⟩
      · exact .inr ⟨other, List.mem_cons_of_mem _ mem, e, refused⟩
    · refine .inr ⟨entry, List.mem_cons_self .., e, refused, ?_⟩
      rw [applyAll, List.foldlM_cons, refused.2]
      rfl

/-- Where a list of entries can be applied, so can the first, and the others after it. -/
lemma applyAll_cons_eq_ok {entry : Entry} (h : applyAll s (entry :: entries) = .ok s') :
    ∃ t v, entry.Sets t v ∧ applyAll (t.put v s) entries = .ok s' := by
  rw [applyAll, List.foldlM_cons] at h
  rcases entry.sets_or_refused with ⟨t, v, sets⟩ | ⟨e, refused⟩
  · rw [sets.apply] at h
    exact ⟨t, v, sets, h⟩
  · rw [refused.2] at h
    cases h

/-- Entries at different places give each setting the value of its own entry, and leave it as it is if
it has none. -/
lemma get_applyAll (h : applyAll s entries = .ok s')
    (apart : entries.Pairwise fun a b => a.place ≠ b.place) (t : Setting) :
    (∀ entry ∈ entries, entry.place = t.place → t.take entry.field = some (t.get s')) ∧
      ((∀ entry ∈ entries, entry.place ≠ t.place) → t.get s' = t.get s) := by
  induction entries generalizing s with
  | nil =>
    obtain rfl := Except.ok.inj h
    exact ⟨List.forall_mem_nil _, fun _ => rfl⟩
  | cons entry entries ih =>
    obtain ⟨u, v, sets, h⟩ := applyAll_cons_eq_ok h
    obtain ⟨first, apart⟩ := List.pairwise_cons.1 apart
    obtain ⟨own, other⟩ := ih h apart
    constructor
    · refine List.forall_mem_cons.2 ⟨fun here => ?_, own⟩
      have same : Except.ok u = Except.ok t :=
        (Entry.setting_eq_ok_iff.2 sets.place).symm.trans (Entry.setting_eq_ok_iff.2 here)
      obtain rfl := Except.ok.inj same
      -- no later entry is of this setting, so it keeps what the first one gives
      have kept := other fun later mem => here ▸ (first later mem).symm
      rw [sets.take, kept, Setting.get_put_self]
    · intro none
      obtain ⟨notHere, later⟩ := List.forall_mem_cons.1 none
      have ne : t ≠ u := fun eq => notHere (eq ▸ sets.place)
      rw [other later, Setting.get_put_of_ne ne]

/-! ## The domain -/

/-- The check names the domain if it cannot be scanned. -/
lemma checked_eq_invalidDomain_iff {s : Settings} {domain : Domain} :
    s.checked = .error (.invalidDomain domain) ↔ s.domain = domain ∧ domain.isValid = false := by
  unfold checked
  by_cases valid : s.domain.isValid = true
  · rw [if_pos valid]
    refine ⟨nofun, ?_⟩
    rintro ⟨rfl, invalid⟩
    cases valid.symm.trans invalid
  · rw [if_neg valid]
    constructor
    · rintro ⟨⟩
      exact ⟨rfl, Bool.eq_false_iff.2 valid⟩
    · rintro ⟨rfl, -⟩
      rfl

/-- The check finds no other fault. -/
lemma eq_invalidDomain_of_checked {s : Settings} {e : TaskError} (h : s.checked = .error e) :
    e = .invalidDomain s.domain := by
  unfold checked at h
  split at h
  · cases h
  · exact (Except.error.inj h).symm

end Settings

end PolySurvey
