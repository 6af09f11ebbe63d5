import PolySurvey.Number.Reading
import PolySurvey.Number.Shortest
import PolySurvey.Text.Blank

/-!
# Values

A value of a task document is what its text looks like: an integer of 64 bits, else a double, else one
of the words `true` and `false`, else the text itself.
-/

namespace PolySurvey

open Text Number

/-- A value of a task document. -/
inductive Value where
  | text (s : String)
  | float (x : Float)
  | integer (n : Int)
  | boolean (b : Bool)
deriving DecidableEq

namespace Value

/-- The value of a text, trimmed of blanks. -/
def ofText (cs : List Char) : Value :=
  let cs := trim cs
  match readInt64? cs with
  | some n => .integer n
  | none =>
    match readFloat? cs with
    | some x => .float x
    | none =>
      let s := String.ofList cs
      if s = "true" then .boolean true
      else if s = "false" then .boolean false
      else .text s

/-- A value as a double, if it is a number. -/
def float? : Value → Option Float
  | .float x => some x
  | .integer n => some (Float.ofInt n)
  | _ => none

/-- A value as an integer, if it is one. -/
def integer? : Value → Option Int
  | .integer n => some n
  | _ => none

/-- A value as a natural number, if it is one. -/
def count? : Value → Option Nat
  | .integer (.ofNat n) => some n
  | _ => none

/-- A value as a truth value, if it is one. -/
def boolean? : Value → Option Bool
  | .boolean b => some b
  | _ => none

/-- A double is a number, and so is an integer. -/
theorem float?_eq_some_iff {value : Value} {x : Float} : value.float? = some x ↔
    value = .float x ∨ ∃ n, value = .integer n ∧ Float.ofInt n = x := by
  cases value <;> simp [float?]

/-- A natural number is an integer that is not negative. -/
theorem count?_eq_some_iff {value : Value} {n : Nat} : value.count? = some n ↔ value = .integer n := by
  match value with
  | .integer (.ofNat m) =>
    rw [count?, Option.some_inj, Value.integer.injEq]
    exact Int.ofNat_inj.symm
  | .integer (.negSucc m) => simp [count?]
  | .text _ => simp [count?]
  | .float _ => simp [count?]
  | .boolean _ => simp [count?]

/-- Only a truth value is read as one. -/
theorem boolean?_eq_some_iff {value : Value} {b : Bool} :
    value.boolean? = some b ↔ value = .boolean b := by
  cases value <;> simp [boolean?]

/-- The text of a value. -/
def display : Value → String
  | .text s => s
  | .float x => String.ofList (plain x)
  | .integer n => toString n
  | .boolean true => "true"
  | .boolean false => "false"

end Value

end PolySurvey
