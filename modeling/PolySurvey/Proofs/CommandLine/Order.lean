import Mathlib.Data.List.Perm.Basic
import Mathlib.Tactic.Lemma
import PolySurvey.CommandLine
import PolySurvey.Proofs.Settings.Accepted

/-!
# The order of a command line does not matter

A command line is a list of groups: a flag with its value, a flag that stands alone, or an expression.
Each group is taken or refused by itself, but for a second expression, which is always refused. What a
group sets is kept in a place of its own until all of them have been read, so a task file does not undo
what was set before it. Hence groups in any order give the same settings, or none.
-/

namespace PolySurvey.CommandLine

/-- An argument that is not a flag. -/
def IsExpression (argument : String) : Prop :=
  Flag.ofText? argument = none ∧ argument ∉ ["--logfile", "--collapse", "-h", "--help"]

instance (argument : String) : Decidable (IsExpression argument) := inferInstanceAs (Decidable (_ ∧ _))

/-- What belongs together on a command line. -/
inductive Group where
  | valued (flag : Flag) (value : String)
  | collapse
  | logToFile
  | expression (text : String) (h : IsExpression text)

/-- How a group is written. -/
def Group.arguments : Group → List String
  | .valued flag value => [flag.text, value]
  | .collapse => ["--collapse"]
  | .logToFile => ["--logfile"]
  | .expression text _ => [text]

/-- The arguments of a list of groups. -/
def arguments (gs : List Group) : List String := gs.flatMap Group.arguments

/-- The values that are given to a flag. -/
def values (flag : Flag) (gs : List Group) : List String :=
  gs.filterMap fun
    | .valued f value => if f = flag then some value else none
    | _ => none

/-- The expressions that are given. -/
def expressions (gs : List Group) : List String :=
  gs.filterMap fun
    | .expression text _ => some text
    | _ => none

/-! ## What values mean -/

/-- The settings in a task file. -/
def settingsOf? (files : Files) (path : String) : Option Settings :=
  (Settings.ofBytes (files path)).toOption

/-- The number that a text writes. -/
def countOf? (text : String) : Option Nat := Number.readCount? text.toList

/-- The way of refining that a text names, in small or capital letters. -/
def methodOf? (text : String) : Option Refinement :=
  Refinement.ofName? (String.ofList (text.toList.map Char.toLower))

/-- A group that is not refused for its value. -/
def Group.Acceptable (files : Files) : Group → Prop
  | .valued .task path => ∃ s, settingsOf? files path = some s
  | .valued .derive text => ∃ n, countOf? text = some n
  | .valued .refine text => ∃ method, methodOf? text = some method
  | .valued .log text => ∃ level, LogLevel.ofText? text = some level
  | _ => True

/-- Every group is acceptable, and there is at most one expression. -/
def Accepted (files : Files) (gs : List Group) : Prop :=
  (∀ g ∈ gs, g.Acceptable files) ∧ (expressions gs).length ≤ 1

/-- Something that can be given by a text: what each of the texts means, or a default if there is
none. -/
def Given {α : Type} (read : String → Option α) (texts : List String) (default a : α) : Prop :=
  (∀ text ∈ texts, read text = some a) ∧ (texts = [] → a = default)

/-- The settings that a command line amounts to: those of its task file, or the defaults, with what
the command line gives itself in their place. -/
structure Amounts (files : Files) (gs : List Group) (base s : Settings) : Prop where
  task : Given (settingsOf? files) (values .task gs) {} base
  expression : Given some (expressions gs) base.expression s.expression
  derive : Given countOf? (values .derive gs) base.derive s.derive
  refinement : Given methodOf? (values .refine gs) base.refinement s.refinement
  logLevel : Given LogLevel.ofText? (values .log gs) base.logLevel s.logLevel
  collapse : s.collapse = true ↔ base.collapse = true ∨ Group.collapse ∈ gs
  logToFile : s.logToFile = true ↔ base.logToFile = true ∨ Group.logToFile ∈ gs
  merge : s.merge = base.merge
  domain : s.domain = base.domain
  limits : s.limits = base.limits

namespace Given

variable {α : Type} {read : String → Option α} {texts texts' : List String} {text : String}
  {default a b : α}

/-- Without a text there is the default. -/
lemma nil_iff : Given read [] default a ↔ a = default :=
  ⟨fun h => h.2 rfl, fun h => ⟨nofun, fun _ => h⟩⟩

/-- A single text gives what it means. -/
lemma singleton (h : read text = some a) : Given read [text] default a := ⟨by simpa using h, nofun⟩

/-- The order of the texts does not matter. -/
lemma perm (h : Given read texts default a) (order : texts.Perm texts') :
    Given read texts' default a := by
  refine ⟨fun text mem => h.1 text (order.mem_iff.2 mem), fun none => h.2 ?_⟩
  rw [none] at order
  exact order.eq_nil

/-- What is given by texts is known from them. -/
lemma unique (h : Given read texts default a) (h' : Given read texts default b) : a = b := by
  cases texts with
  | nil => exact (h.2 rfl).trans (h'.2 rfl).symm
  | cons text rest =>
    have mem : text ∈ text :: rest := List.mem_cons_self
    exact Option.some.inj ((h.1 text mem).symm.trans (h'.1 text mem))

/-- Of two lists of texts one is empty, and the other settles what is given. -/
lemma append (h : Given read texts default b) (h' : Given read texts' b a)
    (once : (texts ++ texts').length ≤ 1) : Given read (texts ++ texts') default a := by
  cases texts with
  | nil =>
    obtain rfl := nil_iff.1 h
    exact h'
  | cons text rest =>
    rw [List.length_append, List.length_cons] at once
    obtain rfl : texts' = [] := List.eq_nil_of_length_eq_zero (by omega)
    obtain rfl := nil_iff.1 h'
    rw [List.append_nil]
    exact h

/-- A place that stays empty unless something is given holds what is given, or else the default. -/
lemma getD {place : Option α} (h : Given (fun text => (read text).map some) texts none place) :
    Given read texts default (place.getD default) := by
  obtain ⟨meaning, none⟩ := h
  refine ⟨fun text mem => ?_, fun empty => by rw [none empty, Option.getD_none]⟩
  obtain ⟨b, hb, rfl⟩ := Option.map_eq_some_iff.1 (meaning text mem)
  exact hb

end Given

/-- The settings of a command line are known from what its groups come to. -/
lemma Amounts.unique {files : Files} {gs : List Group} {base base' s s' : Settings}
    (h : Amounts files gs base s) (h' : Amounts files gs base' s') : s = s' := by
  obtain rfl := h.task.unique h'.task
  have collapse : s.collapse = s'.collapse := Bool.eq_iff_iff.2 (h.collapse.trans h'.collapse.symm)
  have logToFile : s.logToFile = s'.logToFile :=
    Bool.eq_iff_iff.2 (h.logToFile.trans h'.logToFile.symm)
  have expression := h.expression.unique h'.expression
  have derive := h.derive.unique h'.derive
  have refinement := h.refinement.unique h'.refinement
  have logLevel := h.logLevel.unique h'.logLevel
  have merge := h.merge.trans h'.merge.symm
  have domain := h.domain.trans h'.domain.symm
  have limits := h.limits.trans h'.limits.symm
  cases s
  cases s'
  simp_all

/-! ## Reading one group -/

/-- The request after a group. -/
def Group.apply (files : Files) (r : Request) : Group → Except UsageError Request
  | .valued flag value => r.withFlag files flag value
  | .collapse => .ok { r with collapse := true }
  | .logToFile => .ok { r with logToFile := true }
  | .expression text _ =>
    match r.expression with
    | none => .ok { r with expression := some text }
    | some _ => .error (.unexpected text)

/-- A flag is known by its text. -/
lemma Flag.ofText?_text (flag : Flag) : Flag.ofText? flag.text = some flag := by
  cases flag <;> decide

/-- An argument that is no flag is the expression, unless there is one already. -/
lemma withArgument_expression (r : Request) {text : String} (h : IsExpression text) :
    r.withArgument text = match r.expression with
      | none => .ok { r with expression := some text }
      | some _ => .error (.failure (.unexpected text)) := by
  obtain ⟨_, h⟩ := h
  simp only [List.mem_cons, List.not_mem_nil, or_false, not_or] at h
  obtain ⟨logfile, collapse, short, long⟩ := h
  simp only [Request.withArgument, logfile, collapse, short, long]
  cases r.expression <;> rfl

/-- Reading the arguments of a group applies the group. -/
lemma withArguments_group (files : Files) (r : Request) (g : Group) (rest : List String) :
    r.withArguments files (g.arguments ++ rest) = match g.apply files r with
      | .ok r => r.withArguments files rest
      | .error e => .error (.failure e) := by
  cases g with
  | valued flag value =>
    cases read : r.withFlag files flag value <;>
      simp only [Group.arguments, List.cons_append, List.nil_append, Request.withArguments,
        Flag.ofText?_text, Group.apply, read]
  | collapse => rfl
  | logToFile => rfl
  | expression text h =>
    simp only [Group.arguments, List.cons_append, List.nil_append, Request.withArguments, h.1,
      withArgument_expression r h, Group.apply]
    cases r.expression <;> rfl

variable {files : Files} {r r' : Request} {g : Group} {gs gs' : List Group}

/-- What reading a list of groups does to a request. -/
structure Reads (files : Files) (gs : List Group) (r r' : Request) : Prop where
  base : Given (settingsOf? files) (values .task gs) r.base r'.base
  expression : r'.expression.toList = r.expression.toList ++ expressions gs
  derive : Given (fun text => (countOf? text).map some) (values .derive gs) r.derive r'.derive
  refinement :
    Given (fun text => (methodOf? text).map some) (values .refine gs) r.refinement r'.refinement
  logLevel :
    Given (fun text => (LogLevel.ofText? text).map some) (values .log gs) r.logLevel r'.logLevel
  collapse : r'.collapse = true ↔ r.collapse = true ∨ Group.collapse ∈ gs
  logToFile : r'.logToFile = true ↔ r.logToFile = true ∨ Group.logToFile ∈ gs

/-- Without a group nothing has been read. -/
lemma Reads.nil (files : Files) (r : Request) : Reads files [] r r where
  base := Given.nil_iff.2 rfl
  expression := (List.append_nil _).symm
  derive := Given.nil_iff.2 rfl
  refinement := Given.nil_iff.2 rfl
  logLevel := Given.nil_iff.2 rfl
  collapse := by simp
  logToFile := by simp

/-- A task file gives the settings that its bytes give. -/
lemma settingsOf?_eq_some_iff {path : String} {s : Settings} :
    settingsOf? files path = some s ↔ Settings.ofBytes (files path) = .ok s := by
  unfold settingsOf?
  cases Settings.ofBytes (files path) <;> simp [Except.toOption]

/-- A task file gives settings where it holds a text that is a document whose entries are all accepted,
and their domain can be scanned. -/
theorem settingsOf?_eq_some_iff_gives {path : String} {s : Settings} : settingsOf? files path = some s ↔
    ∃ (text : String) (d : Document), files path = .ok text.toUTF8 ∧ Document.read text = .ok d ∧
      d.Accepted ∧ d.Gives s ∧ s.domain.isValid = true :=
  settingsOf?_eq_some_iff.trans Settings.ofBytes_eq_ok_iff

/-- A flag and its value, if they are taken, put what the value means into its own place. -/
lemma reads_of_withFlag {flag : Flag} {value : String} (h : r.withFlag files flag value = .ok r') :
    Reads files [.valued flag value] r r' := by
  have same := Reads.nil files r
  -- Each flag writes to a place of its own; the others keep what they have.
  cases flag with
  | task =>
    simp only [Request.withFlag] at h
    split at h
    · next base found =>
      obtain rfl := Except.ok.inj h
      have task := settingsOf?_eq_some_iff.2 found
      exact { same with base := .singleton task, collapse := by simp, logToFile := by simp }
    · cases h
  | derive =>
    simp only [Request.withFlag] at h
    split at h
    · next n found =>
      obtain rfl := Except.ok.inj h
      have count : (countOf? value).map some = some (some n) := by rw [countOf?, found]; rfl
      exact { same with derive := .singleton count, collapse := by simp, logToFile := by simp }
    · cases h
  | refine =>
    simp only [Request.withFlag] at h
    split at h
    · next method found =>
      obtain rfl := Except.ok.inj h
      have named : (methodOf? value).map some = some (some method) := by rw [methodOf?, found]; rfl
      exact { same with refinement := .singleton named, collapse := by simp, logToFile := by simp }
    · cases h
  | log =>
    simp only [Request.withFlag] at h
    split at h
    · next level found =>
      obtain rfl := Except.ok.inj h
      have named : (LogLevel.ofText? value).map some = some (some level) := by rw [found]; rfl
      exact { same with logLevel := .singleton named, collapse := by simp, logToFile := by simp }
    · cases h

/-- What a group does to a request that takes it. -/
lemma reads_of_apply (h : g.apply files r = .ok r') : Reads files [g] r r' := by
  have same := Reads.nil files r
  cases g with
  | valued flag value => exact reads_of_withFlag h
  | collapse =>
    obtain rfl := Except.ok.inj h
    exact { same with collapse := by simp, logToFile := by simp }
  | logToFile =>
    obtain rfl := Except.ok.inj h
    exact { same with collapse := by simp, logToFile := by simp }
  | expression text expr =>
    simp only [Group.apply] at h
    split at h
    · next none =>
      obtain rfl := Except.ok.inj h
      have first : [text] = r.expression.toList ++ [text] := by rw [none]; rfl
      exact { same with expression := first, collapse := by simp, logToFile := by simp }
    · cases h

/-- A group is refused for its value, or because it is a second expression. -/
lemma exists_apply_iff (files : Files) (r : Request) (g : Group) :
    (∃ r', g.apply files r = .ok r') ↔
      g.Acceptable files ∧ (r.expression.toList ++ expressions [g]).length ≤ 1 := by
  have one : (r.expression.toList ++ []).length ≤ 1 := by cases r.expression <;> simp
  -- Only an expression looks at what the request has taken before; a flag is refused for its value
  -- alone.
  cases g with
  | valued flag value =>
    refine Iff.trans ?_ (and_iff_left one).symm
    cases flag with
    | task =>
      simp only [Group.apply, Request.withFlag, Group.Acceptable, settingsOf?_eq_some_iff]
      cases Settings.ofBytes (files value) <;> simp
    | derive =>
      simp only [Group.apply, Request.withFlag, Group.Acceptable, countOf?]
      cases Number.readCount? value.toList <;> simp
    | refine =>
      simp only [Group.apply, Request.withFlag, Group.Acceptable, methodOf?]
      cases Refinement.ofName? _ <;> simp
    | log =>
      simp only [Group.apply, Request.withFlag, Group.Acceptable]
      cases LogLevel.ofText? value <;> simp
  | collapse => exact ⟨fun _ => ⟨trivial, one⟩, fun _ => ⟨_, rfl⟩⟩
  | logToFile => exact ⟨fun _ => ⟨trivial, one⟩, fun _ => ⟨_, rfl⟩⟩
  | expression text expr =>
    simp only [Group.apply, Group.Acceptable, expressions]
    cases r.expression <;> simp

/-! ## Reading all groups -/

/-- The values of a flag come in the order of the groups. -/
lemma values_append (flag : Flag) (gs gs' : List Group) :
    values flag (gs ++ gs') = values flag gs ++ values flag gs' := List.filterMap_append

/-- The expressions come in the order of the groups. -/
lemma expressions_append (gs gs' : List Group) :
    expressions (gs ++ gs') = expressions gs ++ expressions gs' := List.filterMap_append

/-- Groups may be read in two parts. Where no flag has two values, none of the first part is overwritten
by the second. -/
lemma Reads.append {mid : Request} (first : Reads files gs r mid) (rest : Reads files gs' mid r')
    (once : ∀ flag, (values flag (gs ++ gs')).length ≤ 1) : Reads files (gs ++ gs') r r' := by
  simp only [values_append] at once
  constructor
  · rw [values_append]
    exact first.base.append rest.base (once .task)
  · rw [rest.expression, first.expression, expressions_append, List.append_assoc]
  · rw [values_append]
    exact first.derive.append rest.derive (once .derive)
  · rw [values_append]
    exact first.refinement.append rest.refinement (once .refine)
  · rw [values_append]
    exact first.logLevel.append rest.logLevel (once .log)
  · rw [rest.collapse, first.collapse, List.mem_append, or_assoc]
  · rw [rest.logToFile, first.logToFile, List.mem_append, or_assoc]

/-- The arguments of the first group are read first, and nothing is read after a group that is
refused. -/
lemma withArguments_cons (files : Files) (r : Request) (g : Group) (gs : List Group) :
    r.withArguments files (arguments (g :: gs)) = match g.apply files r with
      | .ok r => r.withArguments files (arguments gs)
      | .error e => .error (.failure e) :=
  withArguments_group files r g (arguments gs)

/-- What a whole command line does to a request that takes it. -/
lemma reads_of_withArguments (h : r.withArguments files (arguments gs) = .ok r')
    (once : ∀ flag, (values flag gs).length ≤ 1) : Reads files gs r r' := by
  induction gs generalizing r with
  | nil =>
    obtain rfl := Except.ok.inj h
    exact .nil files r
  | cons g gs ih =>
    rw [withArguments_cons] at h
    cases applied : g.apply files r with
    | error e =>
      rw [applied] at h
      cases h
    | ok mid =>
      rw [applied] at h
      have fewer : ∀ flag, (values flag gs).length ≤ 1 := by
        intro flag
        have := once flag
        rw [← List.singleton_append, values_append, List.length_append] at this
        omega
      exact (reads_of_apply applied).append (ih h fewer) once

/-- A command line is taken if each of its groups is acceptable and it has no second expression. -/
lemma exists_withArguments_iff (files : Files) (r : Request) (gs : List Group) :
    (∃ r', r.withArguments files (arguments gs) = .ok r') ↔
      (∀ g ∈ gs, g.Acceptable files) ∧ (r.expression.toList ++ expressions gs).length ≤ 1 := by
  induction gs generalizing r with
  | nil =>
    have one : (r.expression.toList ++ []).length ≤ 1 := by cases r.expression <;> simp
    exact ⟨fun _ => ⟨nofun, one⟩, fun _ => ⟨r, rfl⟩⟩
  | cons g gs ih =>
    have here := exists_apply_iff files r g
    rw [withArguments_cons, List.forall_mem_cons, ← List.singleton_append (l := gs),
      expressions_append, ← List.append_assoc]
    -- A group is refused for itself, or for the expressions up to it; those never become fewer.
    cases applied : g.apply files r with
    | error e =>
      rw [applied] at here
      constructor
      · rintro ⟨_, ⟨⟩⟩
      · rintro ⟨⟨acceptable, _⟩, few⟩
        rw [List.length_append] at few
        obtain ⟨_, ⟨⟩⟩ := here.2 ⟨acceptable, by omega⟩
    | ok mid =>
      have taken := here.1 ⟨mid, applied⟩
      rw [← (reads_of_apply applied).expression, and_iff_right taken.1]
      exact ih mid

/-- A command line that is not taken is refused; it asks for no help. -/
lemma exists_failure (h : ∀ r', r.withArguments files (arguments gs) ≠ .ok r') :
    ∃ e, r.withArguments files (arguments gs) = .error (.failure e) := by
  induction gs generalizing r with
  | nil => exact absurd rfl (h r)
  | cons g gs ih =>
    rw [withArguments_cons] at h ⊢
    cases applied : g.apply files r with
    | error e => exact ⟨e, rfl⟩
    | ok mid =>
      rw [applied] at h
      exact ih h

/-! ## The settings of a command line -/

/-- What has been read amounts to settings: each of them is given by its own groups. -/
lemma Reads.amounts (h : Reads files gs {} r) : Amounts files gs r.base r.settings where
  task := h.base
  expression := by
    have only : r.expression.toList = expressions gs := h.expression
    rw [← only]
    cases place : r.expression <;> simp [Given, Request.settings, place]
  derive := h.derive.getD
  refinement := h.refinement.getD
  logLevel := h.logLevel.getD
  collapse := by simp [Request.settings, h.collapse]
  logToFile := by simp [Request.settings, h.logToFile]
  merge := rfl
  domain := rfl
  limits := rfl

/-- A command line is acceptable just when it can be read. -/
lemma accepted_iff (files : Files) (gs : List Group) :
    Accepted files gs ↔ ∃ r, Request.withArguments files {} (arguments gs) = .ok r :=
  (exists_withArguments_iff files {} gs).symm

/-- A run that has its settings ends with another code, whatever becomes of it. -/
lemma exitCode_runSettings_ne (s : Settings) : (runSettings s).exitCode ≠ 2 := by
  unfold runSettings
  cases s.survey with
  | ok survey => exact (by decide : (0 : UInt8) ≠ 2)
  | error e => exact (by decide : (1 : UInt8) ≠ 2)

/-- The exit code says whether a command line was taken. -/
lemma exitCode_eq_two_iff (files : Files) (gs : List Group) :
    (run files (arguments gs)).exitCode = 2 ↔ ¬ Accepted files gs := by
  rw [accepted_iff, run]
  cases result : Request.withArguments files {} (arguments gs) with
  | ok r => simp [exitCode_runSettings_ne]
  | error stop =>
    have refused : ∀ r', Request.withArguments files {} (arguments gs) ≠ .ok r' := by simp [result]
    obtain ⟨e, failure⟩ := exists_failure refused
    obtain rfl := Except.error.inj (result.symm.trans failure)
    simp

/-- Whether groups are acceptable does not depend on their order. -/
lemma Accepted.perm (h : Accepted files gs) (order : gs.Perm gs') : Accepted files gs' :=
  ⟨fun g mem => h.1 g (order.mem_iff.2 mem), (order.filterMap _).length_eq ▸ h.2⟩

/-- What groups amount to does not depend on their order. -/
lemma Amounts.perm {base s : Settings} (h : Amounts files gs base s) (order : gs.Perm gs') :
    Amounts files gs' base s :=
  { h with
    task := h.task.perm (order.filterMap _)
    expression := h.expression.perm (order.filterMap _)
    derive := h.derive.perm (order.filterMap _)
    refinement := h.refinement.perm (order.filterMap _)
    logLevel := h.logLevel.perm (order.filterMap _)
    collapse := by rw [h.collapse, order.mem_iff]
    logToFile := by rw [h.logToFile, order.mem_iff] }

/-- An acceptable command line on which no flag has two values has settings. -/
lemma exists_amounts (accepted : Accepted files gs) (once : ∀ flag, (values flag gs).length ≤ 1) :
    ∃ r, Request.withArguments files {} (arguments gs) = .ok r ∧
      Amounts files gs r.base r.settings := by
  obtain ⟨r, taken⟩ := (accepted_iff files gs).1 accepted
  exact ⟨r, taken, (reads_of_withArguments taken once).amounts⟩

/-- A command line on which no flag has two values, and the same groups in another order, either both
end with exit code 2, which is so if a group is not acceptable or there are two expressions; or both
give the same settings, in which what the command line gives stands before what its task file or the
defaults give. -/
theorem run_reordered (files : Files) (gs gs' : List Group) (order : gs.Perm gs')
    (once : ∀ flag, (values flag gs).length ≤ 1) :
    ((run files (arguments gs)).exitCode = 2 ↔ ¬ Accepted files gs) ∧
      ((run files (arguments gs')).exitCode = 2 ↔ ¬ Accepted files gs) ∧
      (Accepted files gs → ∃ r r', Request.withArguments files {} (arguments gs) = .ok r ∧
        Request.withArguments files {} (arguments gs') = .ok r' ∧ r.settings = r'.settings ∧
        Amounts files gs r.base r.settings) := by
  have same : Accepted files gs ↔ Accepted files gs' := ⟨(·.perm order), (·.perm order.symm)⟩
  refine ⟨exitCode_eq_two_iff files gs, ?_, fun accepted => ?_⟩
  · rw [same]
    exact exitCode_eq_two_iff files gs'
  · have once' : ∀ flag, (values flag gs').length ≤ 1 :=
      fun flag => (order.filterMap _).length_eq ▸ once flag
    obtain ⟨r, taken, amounts⟩ := exists_amounts accepted once
    obtain ⟨r', taken', amounts'⟩ := exists_amounts (same.1 accepted) once'
    exact ⟨r, r', taken, taken', (amounts.perm order).unique amounts', amounts⟩

/-- What the command line gives stands, whether the task file is named before or after it. -/
theorem run_reordered_around_task :
    let text := "function expression: x^2 derive: 3 domain end: 5"
    let files : Files := fun _ => .ok text.toUTF8
    let gs : List Group :=
      [.valued .derive "1", .valued .task "t", .expression "x-1" (by decide), .collapse]
    gs.Perm gs.reverse ∧ (∀ flag, (values flag gs).length ≤ 1) ∧ Accepted files gs ∧
      (run files (arguments gs)).exitCode ≠ 2 ∧ (run files (arguments gs.reverse)).exitCode ≠ 2 ∧
      ∃ r r', Request.withArguments files {} (arguments gs) = .ok r ∧
        Request.withArguments files {} (arguments gs.reverse) = .ok r' ∧
        r.settings = r'.settings ∧ r.settings.derive = 1 ∧ r.settings.expression = "x-1" := by
  intro text files gs
  have order : gs.Perm gs.reverse := (List.reverse_perm gs).symm
  have once : ∀ flag, (values flag gs).length ≤ 1 := by
    intro flag
    cases flag <;> decide
  have task : (settingsOf? files "t").isSome = true := by decide +kernel
  have accepted : Accepted files gs := by
    refine ⟨?_, by decide⟩
    simp only [gs, List.forall_mem_cons]
    exact ⟨⟨1, by decide +kernel⟩, Option.isSome_iff_exists.1 task, trivial, trivial, nofun⟩
  obtain ⟨code, code', both⟩ := run_reordered files gs gs.reverse order once
  obtain ⟨r, r', taken, taken', same, amounts⟩ := both accepted
  have count : countOf? "1" = some r.settings.derive :=
    amounts.derive.1 "1" (List.mem_singleton.2 rfl)
  have one : countOf? "1" = some 1 := by decide +kernel
  have expression : some "x-1" = some r.settings.expression :=
    amounts.expression.1 "x-1" (List.mem_singleton.2 rfl)
  exact ⟨order, once, accepted, fun two => code.1 two accepted, fun two => code'.1 two accepted,
    r, r', taken, taken', same, (Option.some.inj (one.symm.trans count)).symm,
    (Option.some.inj expression).symm⟩

end PolySurvey.CommandLine
