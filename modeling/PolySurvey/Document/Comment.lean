import PolySurvey.Text.Blank

/-!
# Comments

A line of a task document is a comment if it starts, after its blanks, with two slashes, a number
sign, a percent sign or a semicolon. Comments and blank lines are dropped before a document is read.
-/

namespace PolySurvey

open Text

/-- Whether a line says nothing: it is blank or a comment. -/
def isRemark (line : List Char) : Bool :=
  match trim line with
  | [] => true
  | '/' :: '/' :: _ => true
  | c :: _ => c = '#' || c = '%' || c = ';'

/-- The lines that say something, joined by line feeds. -/
def withoutRemarks (cs : List Char) : List Char :=
  List.intercalate ['\n'] ((lines cs).filter fun line => !isRemark line)

end PolySurvey
