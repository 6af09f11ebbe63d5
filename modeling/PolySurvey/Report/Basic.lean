import PolySurvey.Number.Fixed
import PolySurvey.Report.Table

/-!
# Reports

A report is what is said about a function: its text, its degree, its zeros and its extreme points. It
is shown as a table and as the lines of a box next to a graph. Points are written with two decimal
places.
-/

namespace PolySurvey

/-- What is said about a function. -/
structure Report where
  function : String
  degree : Nat
  zeroPoints : List Float
  extremePoints : List Float
deriving DecidableEq

/-- Points with two decimal places, separated by commas. -/
def pointsText (points : List Float) : String :=
  String.intercalate ", " (points.map fun x => String.ofList (Number.fixed x))

namespace Report

/-- The rows of a report: a label and what it says. -/
def rows (labels : List String) (r : Report) : List (String × String) :=
  labels.zip [r.function, toString r.degree, pointsText r.zeroPoints, pointsText r.extremePoints]

/-- The lines of the box next to the graph. -/
def overlay (r : Report) : List String :=
  (r.rows ["Function", "Degree", "Zero Points", "Extreme Points"]).map fun (label, text) =>
    label ++ ": " ++ text

/-- The report as a boxed table. -/
def table (r : Report) : String :=
  let rows := r.rows ["function", "degree", "zero points", "extreme points"]
  String.intercalate "\n"
    ((Table.draw (rows.map fun (label, text) => (label.toList, text.toList))).map String.ofList)

end Report

end PolySurvey
