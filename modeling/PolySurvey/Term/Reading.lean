import PolySurvey.Number.Reading
import PolySurvey.Term.Basic
import PolySurvey.Term.Lexeme

/-!
# Reading terms

The written terms of an expression are read one after the other, and the first that cannot be read is
reported. A number with slashes is a chain of divisions from left to right; a division by zero is not
held back.
-/

namespace PolySurvey

open Text Number

/-- The value of a number with slashes. Blanks in it do not count. -/
def readFraction (literal : List Char) : Except TermError Float :=
  match (splitAtEach '/' (compact literal)).mapM readFloat? with
  | some (numerator :: divisors) => .ok (divisors.foldl (· / ·) numerator)
  | _ => .error (.malformedNumber (String.ofList (trim literal)))

namespace WrittenTerm

/-- The value of a coefficient: one if it is absent, and then only a sign counts. -/
def readCoefficient (text : List Char) : Except TermError Float :=
  match compact text with
  | [] => .ok 1.0
  | ['+'] => .ok 1.0
  | ['-'] => .ok (-1.0)
  | digits => readFraction digits

/-- The value of an exponent: one if it is absent. -/
def readExponent : Option (List Char) → Except TermError Int
  | none => .ok 1
  | some digits =>
    match readInt32? digits with
    | some n => .ok n
    | none => .error (.malformedNumber (String.ofList digits))

/-- The term that a written term stands for. A malformed coefficient is reported before a malformed
exponent, and that before an exponent out of range. -/
def read : WrittenTerm → Except TermError Term
  | .constant literal => do
    let coefficient ← readFraction literal
    return ⟨coefficient, 0⟩
  | .power coefficientText exponentText => do
    let coefficient ← readCoefficient coefficientText
    let exponent ← readExponent exponentText
    let written := String.ofList (WrittenTerm.power coefficientText exponentText).text
    if exponent < 0 then
      throw (.negativeExponent written exponent)
    else if maxExponent < exponent then
      throw (.exponentTooLarge written exponent)
    else
      return ⟨coefficient, exponent⟩

end WrittenTerm

/-- The written terms of an expression, in order. -/
def writtenTerms (cs : List Char) : List WrittenTerm :=
  (Lexeme.scan cs).filterMap Lexeme.term?

/-- The terms of an expression, in order, or the error of the first that cannot be read. -/
def readTerms (cs : List Char) : Except TermError (List Term) :=
  (writtenTerms cs).mapM WrittenTerm.read

end PolySurvey
