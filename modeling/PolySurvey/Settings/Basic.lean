import PolySurvey.Document.Basic
import PolySurvey.Settings.LogLevel
import PolySurvey.Survey.Basic

/-!
# Settings

The settings of a run: an expression, how often it is differentiated, the settings of its survey, and
how much is logged. A task document gives some of them; the others keep their defaults. This module
holds the settings, the places where a document can give them, and what can be wrong with it.
-/

namespace PolySurvey

/-- The settings of a run. -/
structure Settings where
  expression : String := "3x^3-4x^1+2"
  /-- What becomes of terms that share an exponent. -/
  merge : MergePolicy := .overwrite
  derive : Nat := 0
  domain : Domain := .standard
  collapse : Bool := false
  refinement : Refinement := .none
  limits : RefineLimits := .standard
  logLevel : LogLevel := .info
  logToFile : Bool := false
deriving DecidableEq

instance : Inhabited Settings := ⟨{}⟩

/-- One thing that can be set. -/
inductive Setting where
  | expression
  | merge
  | derive
  | start
  | stop
  | step
  | collapse
  | method
  | tolerance
  | maxIterations
  | logLevel
  | logToFile
deriving DecidableEq, Repr

/-- The titles and keys of a task document, and what they set. -/
def Setting.places : List (String × List (String × Setting)) :=
  [("function", [("expression", .expression), ("merge", .merge), ("derive", .derive)]),
    ("domain", [("start", .start), ("end", .stop), ("step", .step), ("collapse", .collapse)]),
    ("refinement",
      [("method", .method), ("tolerance", .tolerance), ("max_iterations", .maxIterations)]),
    ("logging", [("loglevel", .logLevel), ("logfile", .logToFile)])]

/-- Why a file has no text. -/
inductive FileError where
  | notFound
  | denied
  /-- The path leads through a file as if it were a directory. -/
  | notADirectory
  | directory
  /-- The path, or a name in it, is longer than any name of a file. -/
  | nameTooLong
  | notText
deriving DecidableEq, Repr

/-- The wording of a file error. -/
def FileError.message : FileError → String
  | .notFound => "No such file or directory (os error 2)"
  | .denied => "Permission denied (os error 13)"
  | .notADirectory => "Not a directory (os error 20)"
  | .directory => "Is a directory (os error 21)"
  | .nameTooLong => "File name too long (os error 36)"
  | .notText => "stream did not contain valid UTF-8"

/-- Why a task document gives no settings. -/
inductive TaskError where
  /-- The file has no text. -/
  | file (e : FileError)
  /-- The text is not a document. -/
  | malformed (e : SyntaxError)
  /-- A title means nothing. -/
  | unknownSection (title : String)
  /-- A key means nothing under its title. -/
  | unknownKey (title key : String)
  /-- The values cannot be taken. -/
  | invalidValue (title key values : String)
  /-- The domain cannot be scanned. -/
  | invalidDomain (d : Domain)
deriving DecidableEq

/-- The wording of an error. -/
def TaskError.message : TaskError → String
  | .file e => "cannot read task file: " ++ e.message
  | .malformed e => "task syntax error: " ++ e.message
  | .unknownSection title => "unknown section '" ++ title ++ "'"
  | .unknownKey title key => "unknown key '" ++ key ++ "' in section '" ++ title ++ "'"
  | .invalidValue title key values =>
    "invalid value '" ++ values ++ "' for key '" ++ key ++ "' in section '" ++ title ++ "'"
  | .invalidDomain d =>
    let number := fun x => String.ofList (Number.plain x)
    "invalid scan domain [" ++ number d.start ++ ", " ++ number d.stop ++ "] with step " ++
      number d.step

end PolySurvey
