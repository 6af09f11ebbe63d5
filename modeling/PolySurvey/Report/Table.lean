import PolySurvey.Text.Blank
import PolySurvey.Text.Columns

/-!
# Boxed tables

A table of two columns is drawn with rounded box characters: a rule above, between and below the rows,
and a bar around each cell. A column is as wide as its widest line, measured in terminal columns; a
line feed in a cell starts a new line of its row. Every cell has one space on either side.
-/

namespace PolySurvey.Table

open Text

/-- The lines of a cell. -/
abbrev Cell := List (List Char)

/-- The cell of a text; it has at least one line. -/
def Cell.ofText (text : List Char) : Cell := splitAtEach '\n' text

/-- The width of the widest line of a column. -/
def columnWidth (cells : List Cell) : Nat := (cells.flatten.map columns).foldl max 0

/-- A rule: its left corner, the character between the columns, and its right corner. -/
def rule (left between right : Char) (labelWidth textWidth : Nat) : List Char :=
  left :: List.replicate (labelWidth + 2) '─' ++
    between :: List.replicate (textWidth + 2) '─' ++ [right]

/-- A line filled up with spaces to a width. -/
def padded (width : Nat) (line : List Char) : List Char :=
  line ++ List.replicate (width - columns line) ' '

/-- The drawn lines of a row: as many as its taller cell has. -/
def rowLines (labelWidth textWidth : Nat) (row : Cell × Cell) : List (List Char) :=
  (List.range (max row.1.length row.2.length)).map fun i =>
    ['│', ' '] ++ padded labelWidth (row.1.getD i []) ++ [' ', '│', ' '] ++
      padded textWidth (row.2.getD i []) ++ [' ', '│']

/-- The drawn lines of a table, given by its labels and texts. -/
def draw (rows : List (List Char × List Char)) : List (List Char) :=
  let cells := rows.map fun (label, text) => (Cell.ofText label, Cell.ofText text)
  let labelWidth := columnWidth (cells.map Prod.fst)
  let textWidth := columnWidth (cells.map Prod.snd)
  rule '╭' '┬' '╮' labelWidth textWidth ::
    List.intercalate [rule '├' '┼' '┤' labelWidth textWidth]
      (cells.map (rowLines labelWidth textWidth)) ++
    [rule '╰' '┴' '╯' labelWidth textWidth]

end PolySurvey.Table
