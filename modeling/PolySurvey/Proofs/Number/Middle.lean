import PolySurvey.Proofs.Number.Product

/-!
# The middle of two doubles

Half of the sum of two doubles lies between them, as long as neither is beyond half of the largest
finite double, so that their sum is finite. Both roundings keep the order, and twice a double is a
double.
-/

namespace PolySurvey.Number

/-! ## The order of all doubles -/

section

variable {x y z : Float}

/-- NaN does not compare with anything. -/
lemma isNumber_of_le (h : x ≤ y) : IsNumber x ∧ IsNumber y := by
  have some : (x.toModel.unpack.compare y.toModel.unpack).any (·.isLE) = true := of_decide_eq_true h
  constructor
  · intro nan
    rw [nan] at some
    cases some
  · intro nan
    rw [nan] at some
    cases hx : x.toModel.unpack <;> rw [hx] at some <;> cases some

/-- Doubles one of which is below the other are numbers. -/
lemma isNumber_of_lt (h : x < y) : IsNumber x ∧ IsNumber y := by
  have some : (x.toModel.unpack.compare y.toModel.unpack == some .lt) = true := of_decide_eq_true h
  constructor
  · intro nan
    rw [nan] at some
    cases some
  · intro nan
    rw [nan] at some
    cases hx : x.toModel.unpack <;> rw [hx] at some <;> cases some

/-- One double is not above another just when both are numbers and so are their places. -/
lemma le_iff : x ≤ y ↔ IsNumber x ∧ IsNumber y ∧ rank x ≤ rank y := by
  constructor
  · intro h
    obtain ⟨hx, hy⟩ := isNumber_of_le h
    exact ⟨hx, hy, (le_iff_rank_le hx hy).1 h⟩
  · rintro ⟨hx, hy, le⟩
    exact (le_iff_rank_le hx hy).2 le

/-- A number is not above itself; NaN would be neither above nor below anything. -/
lemma le_self_of_le (h : x ≤ y) : x ≤ x :=
  le_iff.2 ⟨(isNumber_of_le h).1, (isNumber_of_le h).1, Int.le_refl _⟩

/-- The same of the larger one. -/
lemma ge_self_of_le (h : x ≤ y) : y ≤ y :=
  le_iff.2 ⟨(isNumber_of_le h).2, (isNumber_of_le h).2, Int.le_refl _⟩

/-- The order of the doubles is transitive. -/
lemma le_of_le_of_le (h : x ≤ y) (h' : y ≤ z) : x ≤ z := by
  obtain ⟨hx, _, le⟩ := le_iff.1 h
  obtain ⟨_, hz, le'⟩ := le_iff.1 h'
  exact le_iff.2 ⟨hx, hz, le.trans le'⟩

/-- A smaller double is not above the larger one. -/
lemma le_of_less (h : x < y) : x ≤ y := by
  obtain ⟨hx, hy⟩ := isNumber_of_lt h
  exact le_iff.2 ⟨hx, hy, ((lt_iff_rank_lt hx hy).1 h).le⟩

/-- The larger one is not below it. -/
lemma not_le_of_less (h : x < y) : ¬ y ≤ x := by
  obtain ⟨hx, hy⟩ := isNumber_of_lt h
  rw [le_iff_rank_le hy hx]
  exact not_le_of_gt ((lt_iff_rank_lt hx hy).1 h)

/-- What equals a finite double is finite, and stands at the same place. -/
lemma isFinite_of_beq (h : (x == y) = true) (finite : y.isFinite = true) :
    x.isFinite = true ∧ rank x = rank y := by
  have number := isNumber_of_isFinite finite
  have number' : IsNumber x := by
    have equal : (x.toModel.unpack.compare y.toModel.unpack == some .eq) = true := h
    intro nan
    rw [nan] at equal
    cases equal
  have same := (beq_iff_rank_eq number' number).1 h
  rw [isFinite_iff_rank number', same]
  exact ⟨(isFinite_iff_rank number).1 finite, rfl⟩

/-- A double between two finite ones is finite. -/
lemma isFinite_of_mem (hx : x.isFinite = true) (hz : z.isFinite = true)
    (le : x ≤ y) (le' : y ≤ z) : y.isFinite = true := by
  obtain ⟨number, number', order⟩ := le_iff.1 le
  obtain ⟨_, number'', order'⟩ := le_iff.1 le'
  have low := ((isFinite_iff_rank number).1 hx).1
  have high := ((isFinite_iff_rank number'').1 hz).2
  exact (isFinite_iff_rank number').2 ⟨by omega, by omega⟩

end

/-! ## Twice a double -/

/-- Twice a magnitude is a magnitude, since the binades go on above the largest double. -/
lemma exists_magnitude_two_mul (n : Nat) : ∃ m, magnitude m = 2 * magnitude n := by
  have place := binade_mul_add_significand n
  rcases Nat.lt_or_ge n (2 ^ 52) with subnormal | normal
  · refine ⟨0 * 2 ^ 52 + 2 * n, ?_⟩
    have lowest := magnitude_place (k := 0) (m := n) (by omega) (.inl rfl)
    rw [Nat.zero_mul, Nat.zero_add, Nat.pow_zero] at lowest
    rw [magnitude_place (by omega) (.inl rfl), lowest]
    omega
  · have full : 2 ^ 52 ≤ significand n := by
      unfold significand binade
      omega
    refine ⟨(binade n + 1) * 2 ^ 52 + significand n, ?_⟩
    rw [magnitude_place (significand_lt n) (.inr full), magnitude, Nat.pow_succ]
    ring

/-- Twice a value is the value at a place. -/
lemma exists_valueAt_two_mul (r : Int) : ∃ q, valueAt q = 2 * valueAt r := by
  cases r with
  | ofNat n =>
    obtain ⟨m, hm⟩ := exists_magnitude_two_mul n
    refine ⟨m, ?_⟩
    show ((magnitude m : Nat) : Int) = 2 * (magnitude n : Nat)
    rw [hm]
    push_cast
    rfl
  | negSucc n =>
    obtain ⟨m, hm⟩ := exists_magnitude_two_mul (n + 1)
    refine ⟨-m, ?_⟩
    have value : valueAt (Int.negSucc n) = -magnitude (n + 1) := rfl
    rw [valueAt_neg, valueAt_natCast, value, hm]
    push_cast
    ring

/-! ## Half of a sum -/

/-- The largest finite double. -/
def largest : Float := 1.7976931348623157e308

/-- Half of the largest finite double. -/
def halfLargest : Float := largest / 2.0

/-- Half of the largest double is one binade below it. -/
lemma rank_halfLargest : rank halfLargest = 2046 * 2 ^ 52 - 1 := by decide +kernel

/-- The opposite of this half has the opposite place. -/
lemma rank_neg_halfLargest : rank (-halfLargest) = -(2046 * 2 ^ 52 - 1) := by decide +kernel

/-- Twice this half is the largest double. -/
lemma two_mul_valueAt_halfLargest :
    2 * valueAt (2046 * 2 ^ 52 - 1) = valueAt (2047 * 2 ^ 52 - 1) := by
  have half : (2046 * 2 ^ 52 - 1 : Int) = ((2044 * 2 ^ 52 + (2 ^ 53 - 1) : Nat) : Int) := rfl
  have full : (2047 * 2 ^ 52 - 1 : Int) = ((2045 * 2 ^ 52 + (2 ^ 53 - 1) : Nat) : Int) := rfl
  rw [half, full, valueAt_place (by decide) (by decide), valueAt_place (by decide) (by decide),
    pow_succ _ 2044, mul_comm, mul_assoc]

/-- The value of one half, in units. -/
lemma valueAt_rank_half : valueAt (rank 0.5) = 2 ^ 1073 := by
  have place : rank 0.5 = ((1021 * 2 ^ 52 + 2 ^ 52 : Nat) : Int) := rfl
  rw [place, valueAt_binade_start]

/-- A place that is not beyond half of the largest finite double is half of a finite place. -/
lemma exists_valueAt_two_mul_of_le {r : Int} (low : -(2046 * 2 ^ 52 - 1) ≤ r)
    (high : r ≤ 2046 * 2 ^ 52 - 1) :
    ∃ q, valueAt q = 2 * valueAt r ∧ -(2047 * 2 ^ 52) < q ∧ q < 2047 * 2 ^ 52 := by
  obtain ⟨q, twice⟩ := exists_valueAt_two_mul r
  have top := two_mul_valueAt_halfLargest
  have above := valueAt_strictMono.monotone high
  have below := valueAt_strictMono.monotone low
  rw [valueAt_neg] at below
  have le : q ≤ 2047 * 2 ^ 52 - 1 := by
    apply valueAt_strictMono.le_iff_le.1
    omega
  have ge : -(2047 * 2 ^ 52 - 1) ≤ q := by
    apply valueAt_strictMono.le_iff_le.1
    rw [valueAt_neg]
    omega
  exact ⟨q, twice, by omega, by omega⟩

section

variable {x y : Float}

/-- Half of a double is rounded to the place nearest to half of its value. -/
lemma rank_half_mul {z : Float} (hz : z.isFinite = true) :
    ∃ r, Nearest ((valueAt (rank z) : ℚ) / 2) r ∧ IsNumber (0.5 * z) ∧
      rank (0.5 * z) = clamp r := by
  obtain ⟨r, nearest, number, eq⟩ := rank_mul (x := 0.5) rfl hz
  have half : ((valueAt (rank 0.5) * valueAt (rank z) : Int) / unitsOfOne : ℚ) =
      (valueAt (rank z) : ℚ) / 2 := by
    have pos : (2 : ℚ) ^ 1073 ≠ 0 := by positivity
    rw [valueAt_rank_half, unitsOfOne, pow_succ _ 1073, Int.cast_mul, Int.cast_pow, Int.cast_ofNat,
      mul_div_mul_left _ _ pos]
  rw [half] at nearest
  exact ⟨r, nearest, number, eq⟩

section

variable (hx : x.isFinite = true) (hy : y.isFinite = true) (le : x ≤ y)
  (sum : (x + y).isFinite = true)

include hx hy le sum

/-- Half of a finite sum is not moved past a place that half of the exact sum does not pass. -/
lemma rank_half_add : IsNumber (0.5 * (x + y)) ∧
    ∀ p, (2 * valueAt p ≤ valueAt (rank x) + valueAt (rank y) → p ≤ rank (0.5 * (x + y))) ∧
      (valueAt (rank x) + valueAt (rank y) ≤ 2 * valueAt p → rank (0.5 * (x + y)) ≤ p) := by
  obtain ⟨number, number', order⟩ := le_iff.1 le
  obtain ⟨low, _⟩ := (isFinite_iff_rank number).1 hx
  obtain ⟨_, high⟩ := (isFinite_iff_rank number').1 hy
  obtain ⟨r, nearest, numeric, eq⟩ := rank_add hx hy
  obtain ⟨bottom, top⟩ := (isFinite_iff_rank numeric).1 sum
  rw [eq] at bottom top
  rw [clamp_eq_self bottom top] at eq
  obtain ⟨m, middle, numeric', eq'⟩ := rank_half_mul sum
  rw [eq] at middle
  -- Twice a place is a place, so neither the sum nor its half is rounded past it.
  have beside : ∀ p, (2 * valueAt p ≤ valueAt (rank x) + valueAt (rank y) → p ≤ m) ∧
      (valueAt (rank x) + valueAt (rank y) ≤ 2 * valueAt p → m ≤ p) := by
    intro p
    obtain ⟨q, twice⟩ := exists_valueAt_two_mul p
    constructor
    · intro le
      have first : q ≤ r := nearest.le_of_le (Int.cast_le.2 (by omega))
      have values := valueAt_strictMono.monotone first
      apply middle.le_of_le
      qify at twice values
      linarith
    · intro le
      have last : r ≤ q := nearest.ge_of_ge (Int.cast_le.2 (by omega))
      have values := valueAt_strictMono.monotone last
      apply middle.ge_of_ge
      qify at twice values
      linarith
  have values := valueAt_strictMono.monotone order
  have left : rank x ≤ m := (beside _).1 (by omega)
  have right : m ≤ rank y := (beside _).2 (by omega)
  rw [eq', clamp_of_finite (by omega) (by omega)]
  exact ⟨numeric', beside⟩

/-- Half of the exact sum lies between the two places beside the rounded half. -/
lemma half_add_near :
    2 * valueAt (rank (0.5 * (x + y)) - 1) < valueAt (rank x) + valueAt (rank y) ∧
      valueAt (rank x) + valueAt (rank y) < 2 * valueAt (rank (0.5 * (x + y)) + 1) := by
  obtain ⟨_, beside⟩ := rank_half_add hx hy le sum
  constructor
  · by_contra above
    have := (beside _).2 (Int.not_lt.1 above)
    omega
  · by_contra below
    have := (beside _).1 (Int.not_lt.1 below)
    omega

/-- Half of a finite sum lies between the doubles that are added. -/
lemma half_add_mem_of_isFinite : x ≤ 0.5 * (x + y) ∧ 0.5 * (x + y) ≤ y := by
  obtain ⟨hx', hy', order⟩ := le_iff.1 le
  have values := valueAt_strictMono.monotone order
  obtain ⟨number, beside⟩ := rank_half_add hx hy le sum
  exact ⟨le_iff.2 ⟨hx', number, (beside _).1 (by omega)⟩,
    le_iff.2 ⟨number, hy', (beside _).2 (by omega)⟩⟩

end

section

variable (low : -halfLargest ≤ x) (le : x ≤ y) (high : y ≤ halfLargest)

include low le high

/-- Doubles that are not beyond half of the largest finite one are finite, and so is their sum. -/
lemma isFinite_add : x.isFinite = true ∧ y.isFinite = true ∧ (x + y).isFinite = true := by
  obtain ⟨_, hx, low⟩ := le_iff.1 low
  obtain ⟨_, hy, order⟩ := le_iff.1 le
  obtain ⟨_, _, high⟩ := le_iff.1 high
  rw [rank_neg_halfLargest] at low
  rw [rank_halfLargest] at high
  have finite : x.isFinite = true := (isFinite_iff_rank hx).2 (by omega)
  have finite' : y.isFinite = true := (isFinite_iff_rank hy).2 (by omega)
  obtain ⟨p, twice, bottom, _⟩ := exists_valueAt_two_mul_of_le low (order.trans high)
  obtain ⟨q, twice', _, top⟩ := exists_valueAt_two_mul_of_le (low.trans order) high
  have values := valueAt_strictMono.monotone order
  obtain ⟨r, nearest, number, eq⟩ := rank_add finite finite'
  have first : p ≤ r := nearest.le_of_le (Int.cast_le.2 (by omega))
  have last : r ≤ q := nearest.ge_of_ge (Int.cast_le.2 (by omega))
  rw [clamp_of_finite (by omega) (by omega)] at eq
  exact ⟨finite, finite', (isFinite_iff_rank number).2 (by omega)⟩

/-- Half of a sum lies between the doubles that are added. -/
lemma half_add_mem : x ≤ 0.5 * (x + y) ∧ 0.5 * (x + y) ≤ y := by
  obtain ⟨finite, finite', sum⟩ := isFinite_add low le high
  exact half_add_mem_of_isFinite finite finite' le sum

end

end

end PolySurvey.Number
