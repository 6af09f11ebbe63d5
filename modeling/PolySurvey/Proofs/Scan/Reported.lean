import PolySurvey.Proofs.Scan.Splitting

/-!
# The brackets of a scan, one by one

The samples of a scan that ends are counted from the start. A zero bracket stands at each place where
the value and the next one have a product of at most zero, an extreme bracket at each inner place where
the slopes on its two sides have one, and there are no others. So nothing finite that changes its sign
is missed, and a product that is NaN stands for nothing.
-/

namespace PolySurvey

open Number

/-- What compares with another double is not NaN. -/
lemma Number.not_le_of_isNaN {x y : Float} (nan : x.isNaN = true) : ¬ x ≤ y := by
  intro le
  have number := (isNumber_of_le le).1
  change x.toModel.unpack.isNaN = true at nan
  cases h : x.toModel.unpack with
  | notANumber => exact number h
  | _ =>
    rw [h] at nan
    cases nan

namespace Bracket

variable (f : Nat → Sample) (step : Float) (k n : Nat)

/-! ## Counted samples -/

/-- Each turn looks at the pair at the first place; the pairs from the next place on remain. -/
lemma ofPairs_map_range' : ofPairs ((List.range' k (n + 1)).map f) =
    ((List.range' k n).filter fun i => (f i).y * (f (i + 1)).y ≤ 0.0).map fun i =>
      ⟨(f i).x, (f (i + 1)).x, 0.5 * ((f i).x + (f (i + 1)).x)⟩ := by
  induction n generalizing k with
  | zero => rfl
  | succ n ih =>
    have next : ((List.range' (k + 1) (n + 1)).map f).head? = some (f (k + 1)) := rfl
    rw [List.range'_succ, List.map_cons, ofPairs_cons, next, ih, List.range'_succ, Option.bind_some,
      ofPair?]
    by_cases here : (f k).y * (f (k + 1)).y ≤ 0.0
    · rw [if_pos here, List.filter_cons_of_pos (by simpa using here)]
      rfl
    · rw [if_neg here, List.filter_cons_of_neg (by simpa using here)]
      rfl

/-- Each turn looks at the first three samples, and the bracket is counted by the one in the middle. -/
lemma ofTriples_map_range' : ofTriples step ((List.range' k (n + 2)).map f) =
    ((List.range' (k + 1) n).filter fun i =>
      (f (i - 1)).slopeTo (f i) step * (f i).slopeTo (f (i + 1)) step ≤ 0.0).map fun i =>
        ⟨(f (i - 1)).x, (f (i + 1)).x, (f i).x⟩ := by
  induction n generalizing k with
  | zero => rfl
  | succ n ih =>
    have next : ((List.range' (k + 2) (n + 1)).map f).head? = some (f (k + 2)) := rfl
    have rest : f (k + 1) :: (List.range' (k + 2) (n + 1)).map f =
        (List.range' (k + 1) (n + 2)).map f := rfl
    rw [List.range'_succ, List.map_cons, List.range'_succ, List.map_cons, ofTriples_cons_cons, next,
      rest, ih, List.range'_succ, Option.bind_some, ofTriple?]
    by_cases here : (f k).slopeTo (f (k + 1)) step * (f (k + 1)).slopeTo (f (k + 2)) step ≤ 0.0
    · rw [if_pos here, List.filter_cons_of_pos (by simpa using here)]
      rfl
    · rw [if_neg here, List.filter_cons_of_neg (by simpa using here)]
      rfl

end Bracket

/-- At every place the mapped filter tells apart, what stands there is in it just when it passes. -/
lemma mem_map_filter_iff {α : Type} {g : Nat → α} {passes : Nat → Bool} {places : List Nat} {i : Nat}
    (hi : i ∈ places) (distinct : ∀ j ∈ places, g j = g i → j = i) :
    g i ∈ (places.filter passes).map g ↔ passes i = true := by
  rw [List.mem_map]
  constructor
  · rintro ⟨j, hj, eq⟩
    obtain ⟨inside, passed⟩ := List.mem_filter.1 hj
    rwa [distinct j inside eq] at passed
  · exact fun passed => ⟨i, List.mem_filter.2 ⟨hi, passed⟩, rfl⟩

namespace Domain

variable {d : Domain} {i j : Nat}

section

variable (valid : d.isValid = true) (ends : d.Ends)

include valid ends

/-- On a walk that has not passed the end, a later abscissa has a higher place. -/
lemma place_lt_place (hi : d.cursor i ≤ d.stop) (lt : i < j) : d.place i < d.place j := by
  have h := checked_of_isValid valid
  have here := h.cursor_le_stop_iff.1 hi
  have moved : d.place i < d.place (i + 1) :=
    (h.place_lt_succ_iff here).2 fun still => h.ends_iff.1 ends (h.stalls_of_stillAt here still)
  exact moved.trans_le (h.place_mono lt)

/-- No abscissa of a scan comes twice. -/
lemma eq_of_cursor_eq (hi : d.cursor i ≤ d.stop) (hj : d.cursor j ≤ d.stop)
    (eq : d.cursor i = d.cursor j) : i = j := by
  have same : d.place i = d.place j := congrArg rank eq
  rcases Nat.lt_trichotomy i j with before | rfl | after
  · have := place_lt_place valid ends hi before
    omega
  · rfl
  · have := place_lt_place valid ends hj after
    omega

/-- A scan visits its start. -/
lemma sampleCount_pos : 0 < d.sampleCount := by
  obtain ⟨_, within⟩ := samples_of_ends valid ends
  have h := checked_of_isValid valid
  exact (within 0).1 (h.cursor_le_stop_iff.2 h.place_zero_le)

end

end Domain

namespace Curve

/-- The brackets of a scan that ends are counted by its samples. There is a zero bracket between a
sample and the next just where their values have a product of at most zero, and an extreme bracket
around an inner sample just where the slopes on its two sides have one; both lists ascend. None stands
for a product that is not a number, and none is missing where finite values or slopes change their
sign. -/
theorem brackets_eq_map_filter (curve : Curve) (d : Domain) (valid : d.isValid = true)
    (ends : d.Ends) :
    let x := d.cursor
    let y := fun i => curve.value (x i)
    let s := fun i => (y i - y (i - 1)) / d.step
    let zero : Nat → Bracket := fun i => ⟨x i, x (i + 1), 0.5 * (x i + x (i + 1))⟩
    let extreme : Nat → Bracket := fun i => ⟨x (i - 1), x (i + 1), x i⟩
    ∃ n, d.samples = (List.range (n + 1)).map x ∧
      curve.zeroBrackets d = ((List.range n).filter fun i => y i * y (i + 1) ≤ 0.0).map zero ∧
      curve.extremeBrackets d =
        ((List.range' 1 (n - 1)).filter fun i => s i * s (i + 1) ≤ 0.0).map extreme ∧
      (∀ i < n, ((y i * y (i + 1)).isNaN = true → zero i ∉ curve.zeroBrackets d) ∧
        ((y i).isFinite = true → (y (i + 1)).isFinite = true → SignChange (y i) (y (i + 1)) →
          zero i ∈ curve.zeroBrackets d)) ∧
      ∀ i < n, 0 < i → ((s i * s (i + 1)).isNaN = true → extreme i ∉ curve.extremeBrackets d) ∧
        ((s i).isFinite = true → (s (i + 1)).isFinite = true → SignChange (s i) (s (i + 1)) →
          extreme i ∈ curve.extremeBrackets d) := by
  intro x y s zero extreme
  obtain ⟨n, count⟩ := Nat.exists_eq_add_one.2 (Domain.sampleCount_pos valid ends)
  obtain ⟨samples, within⟩ := Domain.samples_of_ends valid ends
  rw [count] at samples within
  let f : Nat → Sample := fun i => ⟨x i, y i⟩
  -- Counting the samples, the pairs and triples of neighbours become indices.
  have counted : curve.samples d = (List.range' 0 (n + 1)).map f := by
    rw [Curve.samples, samples, List.map_map, List.range_eq_range']
    rfl
  have zeros : curve.zeroBrackets d =
      ((List.range n).filter fun i => y i * y (i + 1) ≤ 0.0).map zero := by
    rw [zeroBrackets, counted, Bracket.ofPairs_map_range', List.range_eq_range']
  have extremes : curve.extremeBrackets d =
      ((List.range' 1 (n - 1)).filter fun i => s i * s (i + 1) ≤ 0.0).map extreme := by
    rw [extremeBrackets, counted]
    cases n with
    | zero => rfl
    | succ n => exact Bracket.ofTriples_map_range' f d.step 0 n
  -- A bracket belongs to one index only, since the walk never visits an abscissa twice.
  have same : ∀ i ≤ n, ∀ j ≤ n, x j = x i → j = i := fun i hi j hj =>
    Domain.eq_of_cursor_eq valid ends ((within j).2 (by omega)) ((within i).2 (by omega))
  have mem_zeros : ∀ i < n, zero i ∈ curve.zeroBrackets d ↔ y i * y (i + 1) ≤ 0.0 := by
    intro i hi
    rw [zeros, mem_map_filter_iff (List.mem_range.2 hi), decide_eq_true_iff]
    intro j hj eq
    exact same i hi.le j (List.mem_range.1 hj).le (congrArg Bracket.left eq)
  have mem_extremes : ∀ i < n, 0 < i →
      (extreme i ∈ curve.extremeBrackets d ↔ s i * s (i + 1) ≤ 0.0) := by
    intro i hi pos
    rw [extremes, mem_map_filter_iff (List.mem_range'_1.2 (by omega)), decide_eq_true_iff]
    intro j hj eq
    have := List.mem_range'_1.1 hj
    exact same i hi.le j (by omega) (congrArg Bracket.estimate eq)
  refine ⟨n, samples, zeros, extremes, fun i hi => ?_, fun i hi pos => ?_⟩
  · rw [mem_zeros i hi]
    exact ⟨not_le_of_isNaN,
      fun finite finite' change => (mul_le_zero_iff_signChange finite finite').2 (.inl change)⟩
  · rw [mem_extremes i hi pos]
    exact ⟨not_le_of_isNaN,
      fun finite finite' change => (mul_le_zero_iff_signChange finite finite').2 (.inl change)⟩

/-- A steep parabola has its zeros at -1 and 1 and overflows to the right of them. The zero at 1 times
the infinite value after it is not a number, and neither is the slope between two infinite values. -/
theorem brackets_eq_map_filter_overflow :
    let curve := (Polynomial.ofCoefficients [-1e308, 0.0, 1e308]).curve
    let d : Domain := ⟨-1.0, 3.0, 1.0⟩
    d.isValid = true ∧ d.Ends ∧ d.samples = [-1.0, 0.0, 1.0, 2.0, 3.0] ∧
      curve.zeroBrackets d = [⟨-1.0, 0.0, -0.5⟩, ⟨0.0, 1.0, 0.5⟩] ∧
      curve.extremeBrackets d = [⟨-1.0, 1.0, 0.0⟩] ∧
      ⟨1.0, 2.0, 1.5⟩ ∉ curve.zeroBrackets d ∧ ⟨0.0, 1.0, 0.5⟩ ∈ curve.zeroBrackets d ∧
      ⟨1.0, 3.0, 2.0⟩ ∉ curve.extremeBrackets d ∧ ⟨-1.0, 1.0, 0.0⟩ ∈ curve.extremeBrackets d := by
  intro curve d
  have valid : d.isValid = true := by decide +kernel
  have ends : d.Ends := ⟨5, by decide +kernel⟩
  obtain ⟨n, samples, zeros, extremes, zero, extreme⟩ := brackets_eq_map_filter curve d valid ends
  have visited : d.samples = [-1.0, 0.0, 1.0, 2.0, 3.0] := by
    rw [Domain.samples, if_pos valid, Domain.climb_of_lt (by decide +kernel) (by decide +kernel),
      Domain.climb_of_lt (by decide +kernel) (by decide +kernel),
      Domain.climb_of_lt (by decide +kernel) (by decide +kernel),
      Domain.climb_of_lt (by decide +kernel) (by decide +kernel),
      Domain.climb_of_lt (by decide +kernel) (by decide +kernel),
      Domain.climb_of_not_le (by decide +kernel)]
    decide +kernel
  obtain rfl : n = 4 := by
    have count := congrArg List.length (visited.symm.trans samples)
    simpa using count.symm
  have third : (⟨d.cursor 2, d.cursor 3, 0.5 * (d.cursor 2 + d.cursor 3)⟩ : Bracket) =
      ⟨1.0, 2.0, 1.5⟩ := by decide +kernel
  have second : (⟨d.cursor 1, d.cursor 2, 0.5 * (d.cursor 1 + d.cursor 2)⟩ : Bracket) =
      ⟨0.0, 1.0, 0.5⟩ := by decide +kernel
  have last : (⟨d.cursor 2, d.cursor 4, d.cursor 3⟩ : Bracket) = ⟨1.0, 3.0, 2.0⟩ := by
    decide +kernel
  have first : (⟨d.cursor 0, d.cursor 2, d.cursor 1⟩ : Bracket) = ⟨-1.0, 1.0, 0.0⟩ := by
    decide +kernel
  refine ⟨valid, ends, visited, zeros.trans (by decide +kernel), extremes.trans (by decide +kernel),
    ?_, ?_, ?_, ?_⟩
  · exact third ▸ (zero 2 (by decide)).1 (by decide +kernel)
  · exact second ▸ (zero 1 (by decide)).2 (by decide +kernel) (by decide +kernel) (by decide +kernel)
  · exact last ▸ (extreme 3 (by decide) (by decide)).1 (by decide +kernel)
  · exact first ▸ (extreme 1 (by decide) (by decide)).2 (by decide +kernel) (by decide +kernel)
      (by decide +kernel)

end Curve

end PolySurvey
