import PolySurvey.Settings.Entry
import PolySurvey.Survey.Session

/-!
# The command line

The arguments of a run are read from left to right. A task file gives settings, which the other
arguments override; the first argument that cannot be taken ends the run with a line on the error
output and the usage. A run prints the report of its survey, first as a table and then as lines.
-/

namespace PolySurvey.CommandLine

/-- How the program is called. -/
def usage : String :=
  "usage: RustedPolyScope [EXPRESSION] [--task FILE] [--derive N] " ++
    "[--refine none|bisection|newton] [--collapse] [--log LEVEL] [--logfile]"

/-- What arguments ask for. -/
structure Request where
  /-- The settings of the last task file, or the defaults. -/
  base : Settings := {}
  expression : Option String := none
  derive : Option Nat := none
  refinement : Option Refinement := none
  logLevel : Option LogLevel := none
  collapse : Bool := false
  logToFile : Bool := false

/-- Why arguments cannot be taken. -/
inductive UsageError where
  /-- A flag needs a value and is the last argument. -/
  | missingValue (flag : String)
  /-- A task file gives no settings. -/
  | task (path : String) (e : TaskError)
  /-- The value is no natural number. -/
  | notACount (text : String)
  /-- The value names no way of refining. -/
  | unknownRefinement (text : String)
  /-- The value names no log level. -/
  | unknownLogLevel (text : String)
  /-- There is an expression already. -/
  | unexpected (argument : String)
deriving DecidableEq

/-- The wording of an error. -/
def UsageError.message : UsageError → String
  | .missingValue flag => "missing value after " ++ flag
  | .task path e => path ++ ": " ++ e.message
  | .notACount text => "--derive expects a count, got '" ++ text ++ "'"
  | .unknownRefinement text => "unknown refinement '" ++ text ++ "'"
  | .unknownLogLevel text => "unknown log level '" ++ text ++ "'"
  | .unexpected argument => "unexpected argument '" ++ argument ++ "'"

/-- Why reading arguments stopped before their end. -/
inductive Stop where
  | help
  | failure (e : UsageError)
deriving DecidableEq

/-- The files by path: their bytes, or why there are none. -/
abbrev Files := String → Except FileError ByteArray

/-- A flag with a value after it. -/
inductive Flag where
  | task
  | derive
  | refine
  | log
deriving DecidableEq, Repr

namespace Flag

/-- How a flag is written. -/
def text : Flag → String
  | .task => "--task"
  | .derive => "--derive"
  | .refine => "--refine"
  | .log => "--log"

/-- The flag that an argument is. -/
def ofText? (argument : String) : Option Flag :=
  [.task, .derive, .refine, .log].find? fun flag => flag.text = argument

end Flag

namespace Request

/-- The request after a flag and its value. -/
def withFlag (r : Request) (files : Files) (flag : Flag) (value : String) :
    Except UsageError Request :=
  match flag with
  | .task =>
    match Settings.ofBytes (files value) with
    | .ok base => .ok { r with base }
    | .error e => .error (.task value e)
  | .derive =>
    match Number.readCount? value.toList with
    | some n => .ok { r with derive := some n }
    | none => .error (.notACount value)
  | .refine =>
    match Refinement.ofName? (String.ofList (value.toList.map Char.toLower)) with
    | some method => .ok { r with refinement := some method }
    | none => .error (.unknownRefinement value)
  | .log =>
    match LogLevel.ofText? value with
    | some level => .ok { r with logLevel := some level }
    | none => .error (.unknownLogLevel value)

/-- The request after an argument that stands alone. -/
def withArgument (r : Request) (argument : String) : Except Stop Request :=
  if argument = "--logfile" then .ok { r with logToFile := true }
  else if argument = "--collapse" then .ok { r with collapse := true }
  else if argument = "-h" || argument = "--help" then .error .help
  else
    match r.expression with
    | none => .ok { r with expression := some argument }
    | some _ => .error (.failure (.unexpected argument))

/-- The request after a list of arguments. -/
def withArguments (files : Files) (r : Request) : List String → Except Stop Request
  | [] => .ok r
  | argument :: rest =>
    match Flag.ofText? argument with
    | none =>
      match r.withArgument argument with
      | .ok r => r.withArguments files rest
      | .error stop => .error stop
    | some flag =>
      match rest with
      | [] => .error (.failure (.missingValue flag.text))
      | value :: rest =>
        match r.withFlag files flag value with
        | .ok r => r.withArguments files rest
        | .error e => .error (.failure e)

/-- The settings that a request amounts to. -/
def settings (r : Request) : Settings :=
  { r.base with
    expression := r.expression.getD r.base.expression
    derive := r.derive.getD r.base.derive
    refinement := r.refinement.getD r.base.refinement
    logLevel := r.logLevel.getD r.base.logLevel
    collapse := r.base.collapse || r.collapse
    logToFile := r.base.logToFile || r.logToFile }

end Request

/-- What a run leaves behind. -/
structure Outcome where
  exitCode : UInt8
  output : String
  errors : String

/-- The outcome of a run with given settings. -/
def runSettings (s : Settings) : Outcome :=
  match s.survey with
  | .ok survey =>
    let report := (s.derive.repeat Survey.derive survey).report
    { exitCode := 0
      output := String.join ((report.table :: report.overlay).map fun line => line ++ "\n")
      errors := "" }
  | .error e =>
    { exitCode := 1
      output := ""
      errors := "cannot analyse '" ++ s.expression ++ "': " ++ e.message ++ "\n" }

/-- The outcome of a run with given arguments. -/
def run (files : Files) (arguments : List String) : Outcome :=
  match Request.withArguments files {} arguments with
  | .ok request => runSettings request.settings
  | .error .help => ⟨0, usage ++ "\n", ""⟩
  | .error (.failure e) => ⟨2, "", e.message ++ "\n" ++ usage ++ "\n"⟩

/-- The values of the task flag among arguments; these are the paths that a run may read. -/
def taskPaths : List String → List String
  | "--task" :: path :: rest => path :: taskPaths (path :: rest)
  | _ :: rest => taskPaths rest
  | [] => []

end PolySurvey.CommandLine
