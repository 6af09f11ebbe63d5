import PolySurvey.Proofs.Scan.Neighbours
import PolySurvey.Scan.Refinement

/-!
# Refined points stay in their brackets

Whatever the values of a curve are, refining a bracket ends within it. Bisection moves the ends of the
interval only to its middle, and Newton's rule accepts a step only if it stays in the bracket, so each
step keeps the point, or the interval, inside. The brackets of zeros follow one another, and so do the
refined zeros.
-/

namespace PolySurvey

open Number

/-- A point of the closed interval of a bracket. -/
def Bracket.Encloses (b : Bracket) (x : Float) : Prop := b.left ≤ x ∧ x ≤ b.right

/-- A bracket whose ends are not beyond half of the largest double, with its estimate between them. -/
structure Bracket.Proper (b : Bracket) : Prop where
  low : -halfLargest ≤ b.left
  high : b.right ≤ halfLargest
  encloses : b.Encloses b.estimate

namespace Curve

variable {curve : Curve} {b : Bracket} {limits : RefineLimits} {tolerance x y : Float} {n : Nat}

/-! ## One bracket -/

/-- Halving stays in the interval. -/
lemma halve_mem {a c : Float} (ya : Float) (low : -halfLargest ≤ a) (le : a ≤ c)
    (high : c ≤ halfLargest) :
    a ≤ curve.halve tolerance n a c ya ∧ curve.halve tolerance n a c ya ≤ c := by
  induction n generalizing a c ya with
  | zero => exact half_add_mem low le high
  | succ n ih =>
    obtain ⟨left, right⟩ := half_add_mem low le high
    simp only [halve]
    split
    · exact ⟨left, right⟩
    · split
      · obtain ⟨above, below⟩ := ih ya low left (le_of_le_of_le right high)
        exact ⟨above, le_of_le_of_le below right⟩
      · obtain ⟨above, below⟩ :=
          ih (curve.value (0.5 * (a + c))) (le_of_le_of_le low left) right high
        exact ⟨le_of_le_of_le left above, below⟩

/-- Bisection stays in its bracket. -/
lemma bisect_mem (h : b.Proper) : b.Encloses (curve.bisect b limits) := by
  obtain ⟨left, right⟩ := h.encloses
  have order := le_of_le_of_le left right
  simp only [bisect]
  split
  · exact ⟨le_self_of_le order, order⟩
  · split
    · exact ⟨order, ge_self_of_le order⟩
    · split
      · exact h.encloses
      · exact halve_mem _ h.low order h.high

/-- Newton's rule accepts only steps that stay in the bracket. -/
lemma approach?_mem (start : b.Encloses x) (h : curve.approach? b tolerance n x = some y) :
    b.Encloses y := by
  induction n generalizing x with
  | zero =>
    obtain rfl := Option.some.inj h
    exact start
  | succ n ih =>
    simp only [approach?] at h
    split at h
    · obtain rfl := Option.some.inj h
      exact start
    · split at h
      · cases h
      · split at h
        · cases h
        · next inside =>
          have next : b.Encloses (x - curve.value x / curve.slope x) := by
            simpa [Bracket.Encloses] using inside
          split at h
          · obtain rfl := Option.some.inj h
            exact next
          · exact ih next h

/-- Newton's method stays in its bracket, since it falls back on bisection. -/
lemma newton_mem (h : b.Proper) : b.Encloses (curve.newton b limits) := by
  unfold newton
  cases found : curve.approach? b limits.tolerance limits.maxIterations b.estimate with
  | none => exact bisect_mem h
  | some x => exact approach?_mem h.encloses found

/-- Whatever the method is, refining stays in the bracket. -/
lemma refine_mem (h : b.Proper) (method : Refinement) :
    b.Encloses (curve.refine method limits b) := by
  cases method with
  | none => exact h.encloses
  | bisection => exact bisect_mem h
  | newton => exact newton_mem h

/-! ## All brackets of a scan -/

section

variable {d : Domain}

/-- The next sample is not below this one. -/
lemma sample_le_of_getElem? {k : Nat} (hx : d.samples[k]? = some x)
    (hy : d.samples[k + 1]? = some y) : x ≤ y := by
  obtain ⟨inside, rfl⟩ := List.getElem?_eq_some_iff.1 hx
  obtain ⟨inside', rfl⟩ := List.getElem?_eq_some_iff.1 hy
  exact List.pairwise_iff_getElem.1 (Domain.samples_ascending d).1 k (k + 1) inside inside'
    (Nat.lt_succ_self k)

/-- The zero brackets follow one another. -/
lemma zeroBrackets_ascending (curve : Curve) (d : Domain) :
    (curve.zeroBrackets d).Pairwise fun b c => b.right ≤ c.left := by
  rw [zeroBrackets_eq]
  refine (zip_tail_ascending (Domain.samples_ascending d).1).filterMap _ ?_
  intro p q order b hb c hc
  obtain ⟨_, rfl⟩ := exists_of_mem_ofPair? hb
  obtain ⟨_, rfl⟩ := exists_of_mem_ofPair? hc
  exact order

variable (low : -halfLargest ≤ d.start) (high : d.stop ≤ halfLargest)

include low high

/-- The samples of a domain between the halves of the largest double lie between them. -/
lemma sample_bounds {k : Nat} (hx : d.samples[k]? = some x) :
    -halfLargest ≤ x ∧ x ≤ halfLargest := by
  have mem := List.mem_of_getElem? hx
  exact ⟨le_of_le_of_le low ((Domain.samples_ascending d).2 x mem),
    le_of_le_of_le (Domain.le_of_mem_samples mem) high⟩

/-- The ends of a zero bracket are in order, and its estimate lies between them. -/
lemma proper_of_mem_zeroBrackets (h : b ∈ curve.zeroBrackets d) : b.Proper := by
  obtain ⟨k, x, y, hx, hy, _, rfl⟩ := mem_zeroBrackets.1 h
  obtain ⟨left, _⟩ := sample_bounds low high hx
  obtain ⟨_, right⟩ := sample_bounds low high hy
  exact ⟨left, right, half_add_mem left (sample_le_of_getElem? hx hy) right⟩

/-- The same of an extreme bracket. -/
lemma proper_of_mem_extremeBrackets (h : b ∈ curve.extremeBrackets d) : b.Proper := by
  obtain ⟨k, x, y, z, hx, hy, hz, _, rfl⟩ := mem_extremeBrackets.1 h
  exact ⟨(sample_bounds low high hx).1, (sample_bounds low high hz).2,
    sample_le_of_getElem? hx hy, sample_le_of_getElem? hy hz⟩

end

/-- Proper brackets are refined to one point each, and each encloses its point. -/
lemma forall₂_refine {brackets : List Bracket} (proper : ∀ b ∈ brackets, b.Proper)
    (method : Refinement) (limits : RefineLimits) :
    List.Forall₂ Bracket.Encloses brackets (brackets.map (curve.refine method limits)) := by
  rw [List.forall₂_map_right_iff, List.forall₂_same]
  exact fun b hb => refine_mem (proper b hb) method

/-- Refining gives one point for each bracket, in the same order and in the closed interval of that
bracket; without a method it is the estimate. The refined zeros do not decrease. -/
theorem refinedPoints_enclosed (curve : Curve) (d : Domain) (method : Refinement)
    (limits : RefineLimits) (low : -halfLargest ≤ d.start) (high : d.stop ≤ halfLargest) :
    List.Forall₂ Bracket.Encloses (curve.zeroBrackets d) (curve.refinedZeroPoints d method limits) ∧
      List.Forall₂ Bracket.Encloses (curve.extremeBrackets d)
        (curve.refinedExtremePoints d method limits) ∧
      (method = .none → curve.refinedZeroPoints d method limits = curve.zeroPoints d ∧
        curve.refinedExtremePoints d method limits = curve.extremePoints d) ∧
      (curve.refinedZeroPoints d method limits).Pairwise (· ≤ ·) := by
  have proper : ∀ b ∈ curve.zeroBrackets d, b.Proper := fun _ => proper_of_mem_zeroBrackets low high
  refine ⟨forall₂_refine proper method limits,
    forall₂_refine (fun _ => proper_of_mem_extremeBrackets low high) method limits, ?_, ?_⟩
  · rintro rfl
    exact ⟨refinedZeroPoints_none curve d limits, refinedExtremePoints_none curve d limits⟩
  · rw [refinedZeroPoints, List.pairwise_map]
    refine (zeroBrackets_ascending curve d).imp_of_mem ?_
    intro b c hb hc order
    have before : curve.refine method limits b ≤ b.right := (refine_mem (proper b hb) method).2
    have after : c.left ≤ curve.refine method limits c := (refine_mem (proper c hc) method).1
    exact le_of_le_of_le before (le_of_le_of_le order after)

/-- A pole, and limits that no step can meet. -/
theorem refinedPoints_enclosed_pole :
    let curve : Curve := { value := fun x => 1.0 / (x - 0.25) }
    let d : Domain := ⟨0.0, 1.0, 0.5⟩
    let limits : RefineLimits := ⟨0.0 / 0.0, 3⟩
    d.stop ≤ halfLargest ∧ -halfLargest ≤ d.start ∧
      List.Forall₂ Bracket.Encloses (curve.zeroBrackets d)
        (curve.refinedZeroPoints d .newton limits) ∧
      List.Forall₂ Bracket.Encloses (curve.extremeBrackets d)
        (curve.refinedExtremePoints d .newton limits) ∧
      (curve.refinedZeroPoints d .newton limits).Pairwise (· ≤ ·) := by
  intro curve d limits
  have low : -halfLargest ≤ d.start := by decide +kernel
  have high : d.stop ≤ halfLargest := by decide +kernel
  obtain ⟨zeros, extremes, _, ascending⟩ := refinedPoints_enclosed curve d .newton limits low high
  exact ⟨high, low, zeros, extremes, ascending⟩

end Curve

end PolySurvey
