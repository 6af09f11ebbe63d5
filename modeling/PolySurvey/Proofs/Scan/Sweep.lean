import Mathlib.Tactic.Lemma
import PolySurvey.Scan.Bracket

/-!
# What a sweep finds

A sweep carries the last sample, or the last slope, from one sample to the next. What it finds does not
depend on how it came there: zero brackets are those of the pairs of neighbours, and extreme brackets
those of three neighbours each.
-/

namespace PolySurvey.Bracket

/-- The extreme bracket of three neighbouring samples. Its estimate is the one in the middle. -/
def ofTriple? (step : Float) (a b c : Sample) : Option Bracket :=
  if a.slopeTo b step * b.slopeTo c step ≤ 0.0 then some ⟨a.x, c.x, b.x⟩ else none

/-! ## Sweeps -/

section

variable {step : Float} {a b c : Sample} {found : List Bracket} {rest : List Sample}

/-- A sweep for zeros adds the brackets of the pairs to come to those it has found. -/
lemma found_foldl_pairSweep : (rest.foldl PairSweep.next ⟨a, found⟩).found.reverse =
    found.reverse ++ ((a :: rest).zip rest).filterMap fun (a, b) => ofPair? a b := by
  induction rest generalizing a found with
  | nil => exact (List.append_nil _).symm
  | cons b rest ih =>
    rw [List.foldl_cons, PairSweep.next, ih, List.zip_cons_cons]
    cases h : ofPair? a b <;> simp [h]

/-- The slope that a sweep carries is that of the last two samples, so it stops at the next one if these
three have a bracket. -/
lemma tripleSweep_next : TripleSweep.next step ⟨a.x, b, a.slopeTo b step, found⟩ c =
    ⟨b.x, c, b.slopeTo c step, (ofTriple? step a b c).toList ++ found⟩ := by
  simp only [TripleSweep.next, ofTriple?]
  split <;> rfl

/-- A sweep for extreme points adds the brackets of the triples to come to those it has found. -/
lemma found_foldl_tripleSweep :
    (rest.foldl (TripleSweep.next step) ⟨a.x, b, a.slopeTo b step, found⟩).found.reverse =
      found.reverse ++
        ((a :: b :: rest).zip ((b :: rest).zip rest)).filterMap fun (a, b, c) =>
          ofTriple? step a b c := by
  induction rest generalizing a b found with
  | nil => exact (List.append_nil _).symm
  | cons c rest ih =>
    rw [List.foldl_cons, tripleSweep_next, ih, List.zip_cons_cons, List.zip_cons_cons]
    cases h : ofTriple? step a b c <;> simp [h]

end

/-! ## Brackets -/

variable (step : Float) (samples rest : List Sample) (a b : Sample)

/-- The zero brackets of a list are those of its pairs of neighbours. -/
lemma ofPairs_eq : ofPairs samples =
    (samples.zip samples.tail).filterMap fun (a, b) => ofPair? a b := by
  cases samples with
  | nil => rfl
  | cons a rest => exact found_foldl_pairSweep

/-- The extreme brackets of a list are those of its triples of neighbours. -/
lemma ofTriples_eq : ofTriples step samples =
    (samples.zip (samples.tail.zip samples.tail.tail)).filterMap fun (a, b, c) =>
      ofTriple? step a b c := by
  match samples with
  | [] => rfl
  | [_] => rfl
  | a :: b :: rest => exact found_foldl_tripleSweep

/-- One sample more at the front may bracket a zero with the next one. -/
lemma ofPairs_cons : ofPairs (a :: rest) = (rest.head?.bind (ofPair? a)).toList ++ ofPairs rest := by
  rw [ofPairs_eq, ofPairs_eq]
  cases rest with
  | nil => rfl
  | cons c rest => cases h : ofPair? a c <;> simp [h]

/-- One sample more at the front may bracket an extreme point with the next two. -/
lemma ofTriples_cons_cons : ofTriples step (a :: b :: rest) =
    (rest.head?.bind (ofTriple? step a b)).toList ++ ofTriples step (b :: rest) := by
  rw [ofTriples_eq, ofTriples_eq]
  cases rest with
  | nil => rfl
  | cons c rest => cases h : ofTriple? step a b c <;> simp [h]

end PolySurvey.Bracket
