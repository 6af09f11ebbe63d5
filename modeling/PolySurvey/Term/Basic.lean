/-!
# Terms

A term is what one piece of an expression contributes: a coefficient at an exponent of the variable.
This module holds terms, the ways in which reading them fails, and the policy for terms that share
an exponent.
-/

namespace PolySurvey

/-- A coefficient at an exponent of the variable. -/
structure Term where
  coefficient : Float
  /-- The exponent of the power; a term read from an expression has none below zero. -/
  exponent : Int
deriving DecidableEq

/-- The largest exponent that an expression may use. -/
def maxExponent : Nat := 10000

/-- Why an expression has no terms. -/
inductive TermError where
  /-- The exponent of the written term is below zero. -/
  | negativeExponent (term : String) (exponent : Int)
  /-- The exponent of the written term is above the largest one. -/
  | exponentTooLarge (term : String) (exponent : Int)
  /-- A number is not well formed. -/
  | malformedNumber (literal : String)
deriving DecidableEq, Repr

/-- The wording of an error. -/
def TermError.message : TermError → String
  | .negativeExponent term exponent =>
    "term '" ++ term ++ "' has negative exponent " ++ toString exponent ++
      ", only non-negative exponents are supported"
  | .exponentTooLarge term exponent =>
    "term '" ++ term ++ "' has exponent " ++ toString exponent ++
      " which exceeds the maximum of " ++ toString maxExponent
  | .malformedNumber literal => "malformed numeric literal: '" ++ literal ++ "'"

/-- What becomes of terms that share an exponent. -/
inductive MergePolicy where
  /-- The later term replaces the earlier one. -/
  | overwrite
  /-- Their coefficients are added. -/
  | accumulate
deriving DecidableEq, Repr

namespace MergePolicy

/-- The policies, the default one first. -/
def all : List MergePolicy := [.overwrite, .accumulate]

/-- The name of a policy. -/
def name : MergePolicy → String
  | .overwrite => "overwrite"
  | .accumulate => "accumulate"

/-- The policy of a name. -/
def ofName? (s : String) : Option MergePolicy :=
  all.find? fun policy => policy.name = s

instance : Inhabited MergePolicy := ⟨.overwrite⟩

/-- A policy is found by its name, and by nothing else. -/
theorem ofName?_eq_some_iff {s : String} {policy : MergePolicy} :
    ofName? s = some policy ↔ s = policy.name := by
  constructor
  · intro found
    unfold ofName? at found
    have same := List.find?_some found
    exact (of_decide_eq_true same).symm
  · rintro rfl
    cases policy <;> decide

end MergePolicy

end PolySurvey
