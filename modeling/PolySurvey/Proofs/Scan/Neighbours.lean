import PolySurvey.Proofs.Number.Middle
import PolySurvey.Proofs.Scan.Check
import PolySurvey.Proofs.Scan.Sweep

/-!
# Neighbouring samples

A walk goes up, so the samples of a scan are in ascending order. A bracket stands on samples that
follow one another: a zero bracket on two whose values have a product of at most zero, an extreme
bracket on three whose two slopes have one.
-/

namespace PolySurvey

open Number

namespace Domain

variable {d : Domain} {x y : Float}

/-- A walk goes up, and never below the abscissa where it starts. -/
lemma climb_ascending (stop step x : Float) :
    (climb stop step x).Pairwise (· ≤ ·) ∧ ∀ y ∈ climb stop step x, x ≤ y := by
  -- The induction follows the walk; what was visited before plays no part in it.
  refine visit.induct stop step
    (fun x _ => (climb stop step x).Pairwise (· ≤ ·) ∧ ∀ y ∈ climb stop step x, x ≤ y) ?_ ?_ ?_ x []
  · intro x _ inside moved _ ih
    obtain ⟨ascending, above⟩ := ih
    have self : x ≤ x := le_self_of_le inside
    have next : x ≤ x + step := le_of_less moved
    rw [climb_of_lt inside moved]
    have later : ∀ y ∈ climb stop step (x + step), x ≤ y := fun y hy => le_of_le_of_le next (above y hy)
    exact ⟨List.pairwise_cons.2 ⟨later, ascending⟩, List.forall_mem_cons.2 ⟨self, later⟩⟩
  · intro x _ inside still
    rw [climb_of_not_lt inside still]
    exact ⟨List.pairwise_singleton _ _, List.forall_mem_singleton.2 (le_self_of_le inside)⟩
  · intro x _ past
    rw [climb_of_not_le past]
    exact ⟨.nil, List.forall_mem_nil _⟩

/-- The samples are in ascending order, and none is below the start. -/
lemma samples_ascending (d : Domain) :
    d.samples.Pairwise (· ≤ ·) ∧ ∀ x ∈ d.samples, d.start ≤ x := by
  unfold samples
  split
  · exact climb_ascending d.stop d.step d.start
  · exact ⟨.nil, List.forall_mem_nil _⟩

/-- The abscissas of a scan are finite. -/
lemma isFinite_of_mem_samples (h : x ∈ d.samples) : x.isFinite = true := by
  by_cases valid : d.isValid = true
  · obtain ⟨start, stop, _⟩ := checked_of_isValid valid
    exact isFinite_of_mem start stop ((samples_ascending d).2 x h) (le_of_mem_samples h)
  · rw [samples, if_neg valid] at h
    cases h

end Domain

/-- In an ascending list, a pair of neighbours ends where the next begins, or before. -/
lemma zip_tail_ascending {xs : List Float} (h : xs.Pairwise (· ≤ ·)) :
    (xs.zip xs.tail).Pairwise fun p q => p.2 ≤ q.1 := by
  induction xs with
  | nil => exact .nil
  | cons x xs ih =>
    obtain ⟨first, rest⟩ := List.pairwise_cons.1 h
    cases xs with
    | nil => exact .nil
    | cons y ys =>
      obtain ⟨second, _⟩ := List.pairwise_cons.1 rest
      have self : y ≤ y := ge_self_of_le (first y (List.mem_cons_self ..))
      refine List.pairwise_cons.2 ⟨fun q hq => ?_, ih rest⟩
      exact List.forall_mem_cons.2 ⟨self, second⟩ q.1 (List.of_mem_zip hq).1

namespace Curve

variable {curve : Curve} {d : Domain} {b : Bracket}

/-- A scan looks at a curve at finite points only. -/
lemma samples_congr {curve' : Curve}
    (same : ∀ x, x.isFinite = true → curve.value x = curve'.value x) (d : Domain) :
    curve.samples d = curve'.samples d :=
  List.map_congr_left fun x hx => by rw [same x (Domain.isFinite_of_mem_samples hx)]

/-- The zero brackets, written with the pairs of neighbouring abscissas. -/
lemma zeroBrackets_eq (curve : Curve) (d : Domain) :
    curve.zeroBrackets d = (d.samples.zip d.samples.tail).filterMap fun p =>
      Bracket.ofPair? ⟨p.1, curve.value p.1⟩ ⟨p.2, curve.value p.2⟩ := by
  rw [zeroBrackets, Bracket.ofPairs_eq, samples, ← List.map_tail, List.zip_map, List.filterMap_map]
  rfl

/-- The zero bracket of two neighbours spans them. -/
lemma exists_of_mem_ofPair? {x y : Float}
    (h : Bracket.ofPair? ⟨x, curve.value x⟩ ⟨y, curve.value y⟩ = some b) :
    curve.value x * curve.value y ≤ 0.0 ∧ b = ⟨x, y, 0.5 * (x + y)⟩ := by
  unfold Bracket.ofPair? at h
  split at h
  · next le => exact ⟨le, (Option.some.inj h).symm⟩
  · cases h

/-- A zero bracket stands on two samples that follow one another. -/
lemma mem_zeroBrackets : b ∈ curve.zeroBrackets d ↔ ∃ k x y, d.samples[k]? = some x ∧
    d.samples[k + 1]? = some y ∧ curve.value x * curve.value y ≤ 0.0 ∧
    b = ⟨x, y, 0.5 * (x + y)⟩ := by
  rw [zeroBrackets_eq, List.mem_filterMap]
  simp only [List.mem_iff_getElem?, List.getElem?_zip_eq_some, List.getElem?_tail]
  constructor
  · rintro ⟨⟨x, y⟩, ⟨k, hx, hy⟩, h⟩
    exact ⟨k, x, y, hx, hy, exists_of_mem_ofPair? h⟩
  · rintro ⟨k, x, y, hx, hy, le, rfl⟩
    exact ⟨⟨x, y⟩, ⟨k, hx, hy⟩, if_pos le⟩

/-- The slope of a curve from one abscissa to another, a step apart. -/
def stepSlope (curve : Curve) (step x y : Float) : Float := (curve.value y - curve.value x) / step

/-- An extreme bracket stands on three samples that follow one another. -/
lemma mem_extremeBrackets : b ∈ curve.extremeBrackets d ↔ ∃ k x y z, d.samples[k]? = some x ∧
    d.samples[k + 1]? = some y ∧ d.samples[k + 2]? = some z ∧
    curve.stepSlope d.step x y * curve.stepSlope d.step y z ≤ 0.0 ∧ b = ⟨x, z, y⟩ := by
  rw [extremeBrackets, Bracket.ofTriples_eq, List.mem_filterMap]
  simp only [List.mem_iff_getElem?, List.getElem?_zip_eq_some, List.getElem?_tail, samples,
    List.getElem?_map, Bracket.ofTriple?, Option.map_eq_some_iff]
  constructor
  · rintro ⟨⟨_, _, _⟩, ⟨k, ⟨x, hx, rfl⟩, ⟨y, hy, rfl⟩, z, hz, rfl⟩, h⟩
    split at h
    · next le => exact ⟨k, x, y, z, hx, hy, hz, le, (Option.some.inj h).symm⟩
    · cases h
  · rintro ⟨k, x, y, z, hx, hy, hz, le, rfl⟩
    exact ⟨⟨⟨x, curve.value x⟩, ⟨y, curve.value y⟩, ⟨z, curve.value z⟩⟩,
      ⟨k, ⟨x, hx, rfl⟩, ⟨y, hy, rfl⟩, z, hz, rfl⟩, if_pos le⟩

end Curve

end PolySurvey
