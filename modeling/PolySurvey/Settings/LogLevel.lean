import PolySurvey.Text.Blank

/-!
# Log levels

How much a run says about itself, from nothing to everything. A level has a name, and two of them have
a second one; case and blanks around a name do not matter.
-/

namespace PolySurvey

open Text

/-- How much a run says about itself. -/
inductive LogLevel where
  | off
  | error
  | warn
  /-- Also what is done. -/
  | info
  /-- Also how it is done. -/
  | debug
  | trace
deriving DecidableEq, Repr

namespace LogLevel

/-- The name of a level. -/
def name : LogLevel → String
  | .off => "off"
  | .error => "error"
  | .warn => "warn"
  | .info => "info"
  | .debug => "debug"
  | .trace => "trace"

/-- The names that are understood, with their levels. -/
def names : List (String × LogLevel) :=
  [("off", .off), ("none", .off), ("error", .error), ("warn", .warn), ("warning", .warn),
    ("info", .info), ("debug", .debug), ("trace", .trace)]

/-- The level that a text names. -/
def ofText? (text : String) : Option LogLevel :=
  names.lookup (String.ofList ((trim text.toList).map Char.toLower))

/-- Whether a run at this level keeps a log. -/
def keepsLog (level : LogLevel) : Bool := level ≠ .off

/-- A text names a level if it is, without the blanks around it and in small letters, one of its names. -/
theorem ofText?_eq_some_iff {text : String} {level : LogLevel} :
    ofText? text = some level ↔
      (String.ofList ((trim text.toList).map Char.toLower), level) ∈ names := by
  have found : ∀ entry ∈ names, names.lookup entry.1 = some entry.2 := by decide
  constructor
  · intro h
    obtain ⟨_, _, split, _⟩ := List.lookup_eq_some_iff.1 h
    rw [split]
    exact List.mem_append_right _ (List.mem_cons_self ..)
  · exact found _

end LogLevel

end PolySurvey
