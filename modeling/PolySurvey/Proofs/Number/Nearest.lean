import PolySurvey.Proofs.Number.Place

/-!
# The nearest place

Rounding sends a value to the place that is nearest to it, and to the even one of two that are
equally near. Values are counted in multiples of the least positive double, and need not be whole.
Rounding keeps the order, and a value that stands at a place is not moved.
-/

namespace PolySurvey.Number

/-- A place is the nearest one to a value, and the even one if another is as near. -/
structure Nearest (v : ℚ) (r : Int) : Prop where
  /-- The place below is not nearer. -/
  below : valueAt (r - 1) + valueAt r ≤ 2 * v
  /-- The place above is not nearer. -/
  above : 2 * v ≤ valueAt r + valueAt (r + 1)
  /-- Of two places that are equally near, it is the even one. -/
  even : valueAt (r - 1) + valueAt r = 2 * v ∨ 2 * v = valueAt r + valueAt (r + 1) → r % 2 = 0

namespace Nearest

variable {v : ℚ} {r q : Int}

/-- Rounding does not go below a place that is not above the value. -/
lemma le_of_le (h : Nearest v r) (hq : valueAt q ≤ v) : q ≤ r := by
  by_contra lt
  have first := valueAt_strictMono.monotone (show r + 1 ≤ q by omega)
  have second := valueAt_strictMono (show r < q by omega)
  have above := h.above
  qify at first second
  linarith

/-- No place nearest to a value lies above a place that the value does not reach. -/
lemma ge_of_ge (h : Nearest v r) (hq : v ≤ valueAt q) : r ≤ q := by
  by_contra lt
  have first := valueAt_strictMono.monotone (show q ≤ r - 1 by omega)
  have second := valueAt_strictMono (show q < r by omega)
  have below := h.below
  qify at first second
  linarith

/-- Two nearest places of one value: the even one is not below the other. -/
lemma le_of_nearest (h : Nearest v r) (h' : Nearest v q) : q ≤ r := by
  by_contra lt
  have first := valueAt_strictMono.monotone (show r ≤ q - 1 by omega)
  have second := valueAt_strictMono.monotone (show r + 1 ≤ q by omega)
  have above := h.above
  have below := h'.below
  qify at first second
  -- Both places are equally near, so both are even and there is another one between them.
  have even := h.even (.inr (by linarith))
  have even' := h'.even (.inl (by linarith))
  have strict := valueAt_strictMono (show r + 1 < q by omega)
  qify at strict
  linarith

/-- A value has one nearest place. -/
lemma unique (h : Nearest v r) (h' : Nearest v q) : r = q :=
  (h'.le_of_nearest h).antisymm (h.le_of_nearest h')

/-- Rounding keeps the order. -/
lemma mono {w : ℚ} (h : Nearest v r) (h' : Nearest w q) (le : v ≤ w) : r ≤ q := by
  rcases le.eq_or_lt with rfl | lt
  · exact (h.unique h').le
  · by_contra reversed
    have first := valueAt_strictMono.monotone (show q ≤ r - 1 by omega)
    have second := valueAt_strictMono.monotone (show q + 1 ≤ r by omega)
    have below := h.below
    have above := h'.above
    qify at first second
    linarith

/-! ## A step from a place -/

section

variable {s : Int}

/-- A step does not move a place when it is at most half of the gap, where a half moves only an odd
place. -/
lemma add_step_self_iff (hs : 0 < s) :
    Nearest ((valueAt r + s : Int) : ℚ) r ↔ 2 * s ≤ gapAt r ∧ (2 * s = gapAt r → r % 2 = 0) := by
  have succ := valueAt_succ r
  have pred := valueAt_strictMono (show r - 1 < r by omega)
  constructor
  · intro h
    have above := h.above
    norm_cast at above
    refine ⟨by omega, fun half => h.even (.inr ?_)⟩
    norm_cast
    omega
  · rintro ⟨le, even⟩
    refine ⟨?_, ?_, ?_⟩
    · norm_cast
      omega
    · norm_cast
      omega
    · norm_cast
      intro tie
      exact even (by omega)

/-- A step of more than half of the gap, but not half of a gap more than it, leads to the next
place. -/
lemma succ_of_step (long : gapAt r < 2 * s) (short : 2 * s < 2 * gapAt r + gapAt (r + 1)) :
    Nearest ((valueAt r + s : Int) : ℚ) (r + 1) := by
  have succ := valueAt_succ r
  have succ' := valueAt_succ (r + 1)
  refine ⟨?_, ?_, ?_⟩
  · rw [Int.add_sub_cancel]
    norm_cast
    omega
  · norm_cast
    omega
  · rw [Int.add_sub_cancel]
    norm_cast
    omega

variable (h : Nearest ((valueAt r + s : Int) : ℚ) q)

include h

/-- The place nearest to a sum with something positive is not below the place it started from. -/
lemma le_of_step (hs : 0 < s) : r ≤ q := by
  apply h.le_of_le
  norm_cast
  omega

/-- A step that moves a place moves it by two thirds of the step, or by half of it into a binade
whose gaps are no smaller than the step. -/
lemma step_le_of_step (moved : r < q) :
    2 * s ≤ 3 * (valueAt q - valueAt r) ∨
      0 ≤ q ∧ s ≤ gapAt q ∧ s ≤ 2 * (valueAt q - valueAt r) := by
  have succ := valueAt_succ q
  have pred := valueAt_succ (q - 1)
  have pred' := valueAt_succ (q - 2)
  have doubled := gapAt_add_le (r := q - 2) (j := 2) (by decide) (by decide)
  have first := valueAt_strictMono.monotone (show r ≤ q - 1 by omega)
  have above := h.above
  norm_cast at above
  rw [Int.sub_add_cancel] at pred doubled
  rw [show q - 2 + 1 = q - 1 by omega] at pred'
  rcases Int.lt_or_le (valueAt q - valueAt r) (gapAt q) with short | long
  · -- The way is shorter than the gap ahead, so a binade begins here, one place after the start.
    have grows : gapAt (q - 1) < gapAt (q - 1 + 1) := by
      rw [Int.sub_add_cancel]
      omega
    obtain ⟨nonneg, _, twice⟩ := gapAt_succ_of_lt grows
    rw [Int.sub_add_cancel] at twice
    have next : q - 1 = r := by
      by_contra far
      have := valueAt_strictMono.monotone (show r ≤ q - 2 by omega)
      omega
    rw [next] at pred twice
    exact .inr ⟨by omega, by omega, by omega⟩
  · exact .inl (by omega)

/-- A place whose gap is twice the step is reached only from the place before it, and is even: a step
does not move it. -/
lemma eq_succ_and_even (moved : r < q) (half : 2 * s = gapAt q) : q = r + 1 ∧ q % 2 = 0 := by
  have pred := valueAt_succ (q - 1)
  have pred' := valueAt_succ (q - 2)
  have doubled := gapAt_add_le (r := q - 2) (j := 2) (by decide) (by decide)
  have pos := gapAt_pos (q - 1)
  have below := h.below
  norm_cast at below
  rw [Int.sub_add_cancel] at pred doubled
  rw [show q - 2 + 1 = q - 1 by omega] at pred'
  have next : q = r + 1 := by
    by_contra far
    have := valueAt_strictMono.monotone (show r ≤ q - 2 by omega)
    omega
  refine ⟨next, ?_⟩
  by_contra odd
  -- An odd place is not reached from the middle, so the gap below it is smaller than the one above.
  have strict : valueAt (q - 1) + valueAt q ≠ 2 * (valueAt r + s) := by
    intro tie
    exact odd (h.even (.inl (by exact_mod_cast tie)))
  have grows : gapAt (q - 1) < gapAt (q - 1 + 1) := by
    rw [Int.sub_add_cancel]
    rw [show r = q - 1 by omega] at below strict
    omega
  obtain ⟨_, even, _⟩ := gapAt_succ_of_lt grows
  rw [Int.sub_add_cancel] at even
  exact odd even

end

/-! ## Symmetry -/

/-- Rounding is symmetric around zero. -/
lemma neg (h : Nearest v r) : Nearest (-v) (-r) := by
  have succ : -r + 1 = -(r - 1) := by omega
  have pred : -r - 1 = -(r + 1) := by omega
  have below := h.below
  have above := h.above
  refine ⟨?_, ?_, ?_⟩
  · rw [pred, valueAt_neg, valueAt_neg]
    push_cast
    linarith
  · rw [succ, valueAt_neg, valueAt_neg]
    push_cast
    linarith
  · rw [pred, succ, valueAt_neg, valueAt_neg, valueAt_neg]
    push_cast
    -- The neighbours change places, and an even place has an even opposite.
    intro tie
    have even : r % 2 = 0 := by
      apply h.even
      rcases tie with tie | tie
      · exact .inr (by linarith)
      · exact .inl (by linarith)
    omega

/-- A place is nearest to its own value. -/
lemma valueAt_self (r : Int) : Nearest (valueAt r) r := by
  have pred := valueAt_strictMono (show r - 1 < r by omega)
  have succ := valueAt_strictMono (show r < r + 1 by omega)
  qify at pred succ
  refine ⟨by linarith, by linarith, ?_⟩
  rintro (tie | tie)
  · linarith
  · linarith

end Nearest

end PolySurvey.Number
