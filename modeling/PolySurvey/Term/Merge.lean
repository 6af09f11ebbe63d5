import Std.Data.TreeMap
import PolySurvey.Term.Basic

/-!
# Merging terms

Terms are gathered by exponent and then laid out as a dense vector of coefficients, in which the
place of a coefficient is its exponent. A term with a negative exponent has no place and is dropped.
-/

namespace PolySurvey

/-- The coefficients by exponent, one for each exponent that occurs. -/
abbrev MergedTerms := Std.TreeMap Nat Float

namespace MergedTerms

/-- One more term: it replaces, or is added to, what its exponent holds. -/
def add (policy : MergePolicy) (merged : MergedTerms) (term : Term) : MergedTerms :=
  if term.exponent < 0 then
    merged
  else
    match policy with
    | .overwrite => merged.insert term.exponent.toNat term.coefficient
    | .accumulate =>
      merged.insert term.exponent.toNat
        (merged.getD term.exponent.toNat 0.0 + term.coefficient)

/-- The terms gathered by exponent, in the order in which they come. -/
def ofTerms (policy : MergePolicy) (terms : List Term) : MergedTerms :=
  terms.foldl (add policy) {}

/-- A coefficient is written to the place of its exponent. If the vector has no such place it grows
before, with zeros. -/
def write (cs : Array Float) (exponent : Nat) (coefficient : Float) : Array Float :=
  let cs := if cs.size ≤ exponent then cs.rightpad (exponent + 1) 0.0 else cs
  cs.setIfInBounds exponent coefficient

/-- The dense vector of coefficients: up to the largest exponent, zero where there is none. There is
always a place for the constant. -/
def dense (merged : MergedTerms) : List Float :=
  (merged.foldl write #[0.0]).toList

/-- A vector grows by what it needs for the exponent, and not at all if it has the place. -/
theorem size_write (cs : Array Float) (exponent : Nat) (coefficient : Float) :
    (write cs exponent coefficient).size = max cs.size (exponent + 1) := by
  simp only [write, Array.size_setIfInBounds]
  split
  · rw [Array.size_rightpad, Nat.max_comm]
  · omega

/-- The number of places that the exponents need; the constant always has one. -/
def places (merged : MergedTerms) : Nat :=
  merged.keys.foldl (fun places exponent => max places (exponent + 1)) 1

/-- The vector grows to the places that are needed, and no further. -/
theorem length_dense (merged : MergedTerms) : merged.dense.length = merged.places := by
  have grown : ∀ (entries : List (Nat × Float)) (cs : Array Float),
      (entries.foldl (fun cs entry => write cs entry.1 entry.2) cs).size =
        entries.foldl (fun places entry => max places (entry.1 + 1)) cs.size := by
    intro entries
    induction entries with
    | nil => exact fun _ => rfl
    | cons entry entries ih =>
      intro cs
      rw [List.foldl_cons, ih, size_write, List.foldl_cons]
  rw [dense, Std.TreeMap.foldl_eq_foldl_toList, Array.length_toList, grown, places,
    ← Std.TreeMap.map_fst_toList_eq_keys, List.foldl_map]
  rfl

/-- There is a place for the constant. -/
theorem places_pos (merged : MergedTerms) : 0 < merged.places := by
  suffices h : ∀ (exponents : List Nat) (n : Nat), 0 < n →
      0 < exponents.foldl (fun places exponent => max places (exponent + 1)) n from
    h merged.keys 1 Nat.one_pos
  intro exponents
  induction exponents with
  | nil => exact fun n hn => hn
  | cons e es ih => exact fun n hn => ih _ (Nat.lt_of_lt_of_le hn (Nat.le_max_left ..))

/-- The dense vector has a place for the constant. -/
theorem dense_ne_nil (merged : MergedTerms) : merged.dense ≠ [] := by
  have := places_pos merged
  rw [← length_dense] at this
  exact List.ne_nil_of_length_pos this

end MergedTerms

end PolySurvey
