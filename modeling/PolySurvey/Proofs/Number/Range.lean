import PolySurvey.Proofs.Number.Middle

/-!
# Products out of range

The product of two finite doubles has the sign of the exact product unless that is so small that it is
rounded to zero, and it is finite unless the exact product is so large that it is rounded to infinity.
-/

namespace PolySurvey.Number

/-! ## Where a rounding turns -/

/-- A value is rounded below an even place just when it is below the middle between that place and the
one before. -/
lemma Nearest.lt_iff_of_even {v : ℚ} {r q : Int} (h : Nearest v r) (hq : q % 2 = 0) :
    r < q ↔ 2 * v < valueAt (q - 1) + valueAt q := by
  constructor
  · intro lt
    have first := valueAt_strictMono.monotone (show r ≤ q - 1 by omega)
    have second := valueAt_strictMono.monotone (show r + 1 ≤ q by omega)
    have above := h.above
    by_contra far
    qify at first second
    -- The value can only be the middle itself, and is then rounded to the even place.
    have even := h.even (.inr (by linarith))
    have strict := valueAt_strictMono (show r < q - 1 by omega)
    qify at strict
    linarith
  · intro near
    by_contra le
    have first := valueAt_strictMono.monotone (show q - 1 ≤ r - 1 by omega)
    have second := valueAt_strictMono.monotone (show q ≤ r by omega)
    have below := h.below
    qify at first second
    linarith

/-- The middle between the largest double and `2 ^ 1024`. -/
lemma middle_infinity : (valueAt (2047 * 2 ^ 52 - 1) + valueAt (2047 * 2 ^ 52) : ℚ) =
    2 * ((2 ^ 1024 - 2 ^ 970) * unitsOfOne) := by
  have places : valueAt (2047 * 2 ^ 52 - 1) + valueAt (2047 * 2 ^ 52) =
      2 * ((2 ^ 1024 - 2 ^ 970) * 2 ^ 1074) := by decide +kernel
  rw [← Int.cast_add, places, Int.cast_mul, Int.cast_mul, Int.cast_sub, Int.cast_pow, Int.cast_pow,
    Int.cast_pow, Int.cast_ofNat, unitsOfOne]

/-- The place nearest to a value is below infinity where the value is closer to the largest double than
to the next power of two. -/
lemma Nearest.lt_infinity_iff {v : ℚ} {r : Int} (h : Nearest (v * unitsOfOne) r) :
    r < 2047 * 2 ^ 52 ↔ v < 2 ^ 1024 - 2 ^ 970 := by
  rw [h.lt_iff_of_even (by decide), middle_infinity, mul_lt_mul_iff_right₀ two_pos,
    mul_lt_mul_iff_left₀ unitsOfOne_pos]

/-- Clamping leaves negative places negative, and no others. -/
lemma clamp_neg_iff {r : Int} : clamp r < 0 ↔ r < 0 := by
  unfold clamp
  split
  · omega
  · split <;> omega

/-- A place that is clamped to a finite one was finite. -/
lemma clamp_finite_iff {r : Int} : -(2047 * 2 ^ 52) < clamp r ∧ clamp r < 2047 * 2 ^ 52 ↔
    -(2047 * 2 ^ 52) < r ∧ r < 2047 * 2 ^ 52 := by
  unfold clamp
  split
  · omega
  · split <;> omega

/-! ## Signs of products -/

section

variable {x y : Float}

/-- One value below zero and the other above it. -/
def OppositeSign (x y : Float) : Prop := (x < 0.0 ∧ 0.0 < y) ∨ (0.0 < x ∧ y < 0.0)

/-- Both values below zero, or both above it. -/
def SameSign (x y : Float) : Prop := (x < 0.0 ∧ y < 0.0) ∨ (0.0 < x ∧ 0.0 < y)

/-- The exact product is at most half of the least positive double, so it is rounded to zero. -/
def Vanishes (x y : Float) : Prop := |exact x * exact y| ≤ exact leastPositive / 2

/-- The exact product is not below the middle between the largest double and `2 ^ 1024`, so it is
rounded to infinity. -/
def Overflows (x y : Float) : Prop := 2 ^ 1024 - 2 ^ 970 ≤ |exact x * exact y|

/-- Numbers have opposite signs where their exact product is negative. -/
lemma oppositeSign_iff (hx : IsNumber x) (hy : IsNumber y) : OppositeSign x y ↔ exact x * exact y < 0 := by
  rw [OppositeSign, ← exact_neg_iff hx, ← exact_neg_iff hy, ← exact_pos_iff hx, ← exact_pos_iff hy,
    mul_neg_iff]
  exact or_comm

/-- Numbers have the same sign where their exact product is positive. -/
lemma sameSign_iff (hx : IsNumber x) (hy : IsNumber y) : SameSign x y ↔ 0 < exact x * exact y := by
  rw [SameSign, ← exact_neg_iff hx, ← exact_neg_iff hy, ← exact_pos_iff hx, ← exact_pos_iff hy,
    mul_pos_iff]
  exact or_comm

/-- Signs that are the same are not opposite. -/
lemma SameSign.not_oppositeSign (hx : IsNumber x) (hy : IsNumber y) (h : SameSign x y) :
    ¬ OppositeSign x y := by
  rw [oppositeSign_iff hx hy]
  exact not_lt_of_gt ((sameSign_iff hx hy).1 h)

/-- Two values that are not zero have opposite signs or the same sign. -/
lemma oppositeSign_or_sameSign (hx : IsNumber x) (hy : IsNumber y) (nx : ¬ (x == 0.0) = true)
    (ny : ¬ (y == 0.0) = true) : OppositeSign x y ∨ SameSign x y := by
  rw [← exact_eq_zero_iff hx] at nx
  rw [← exact_eq_zero_iff hy] at ny
  rw [oppositeSign_iff hx hy, sameSign_iff hx hy]
  exact lt_or_gt_of_ne (mul_ne_zero nx ny)

section

variable {z : Float} (hx : IsNumber x) (hy : IsNumber y) (hz : IsNumber z)

include hx hy hz

/-- A value with the sign of one end has the sign opposite to that of the other end. -/
lemma OppositeSign.of_sameSign (h : OppositeSign x z) (h' : SameSign x y) : OppositeSign y z := by
  rw [oppositeSign_iff hx hz] at h
  rw [sameSign_iff hx hy] at h'
  rw [oppositeSign_iff hy hz]
  have product : exact x ^ 2 * (exact y * exact z) < 0 := by
    have := mul_neg_of_pos_of_neg h' h
    linarith
  exact neg_of_mul_neg_right product (sq_nonneg _)

/-- A value with the sign opposite to that of one end has the sign of the other end. -/
lemma OppositeSign.sameSign (h : OppositeSign x z) (h' : OppositeSign x y) : SameSign y z := by
  rw [oppositeSign_iff hx hz] at h
  rw [oppositeSign_iff hx hy] at h'
  rw [sameSign_iff hy hz]
  have product : 0 < exact x ^ 2 * (exact y * exact z) := by
    have := mul_pos_of_neg_of_neg h' h
    linarith
  exact pos_of_mul_pos_right product (sq_nonneg _)

end

variable (hx : x.isFinite = true) (hy : y.isFinite = true)

include hx hy

/-- The product of two finite doubles stands at the place that is nearest to the exact product. -/
lemma rank_mul_exact : ∃ r, Nearest (exact x * exact y * unitsOfOne) r ∧ IsNumber (x * y) ∧
    rank (x * y) = clamp r := by
  obtain ⟨r, nearest, rounded⟩ := rank_mul hx hy
  have product : exact x * exact y * unitsOfOne =
      (valueAt (rank x) * valueAt (rank y) : Int) / unitsOfOne := by
    have := unitsOfOne_pos.ne'
    unfold exact
    push_cast
    field_simp
  rw [← product] at nearest
  exact ⟨r, nearest, rounded⟩

/-- A product is negative where the exact one is below minus half of the least positive double. -/
lemma mul_lt_zero_iff : x * y < 0.0 ↔ exact x * exact y < -(exact leastPositive / 2) := by
  obtain ⟨r, nearest, number, eq⟩ := rank_mul_exact hx hy
  have pos := unitsOfOne_pos
  have zero : rank 0.0 = 0 := rfl
  have prev : valueAt (0 - 1) = -1 := rfl
  have here : valueAt 0 = 0 := rfl
  have bound : -(exact leastPositive / 2) = -1 / (2 * unitsOfOne) := by
    rw [exact_leastPositive]
    ring
  rw [lt_iff_rank_lt number isNumber_zero, eq, zero, clamp_neg_iff,
    nearest.lt_iff_of_even (by decide), prev, here, bound, lt_div_iff₀ (by positivity)]
  push_cast
  constructor <;> intro lt <;> linarith

/-- A product is positive where the exact one is above half of the least positive double. -/
lemma zero_lt_mul_iff : 0.0 < x * y ↔ exact leastPositive / 2 < exact x * exact y := by
  obtain ⟨_, _, number, _⟩ := rank_mul_exact hx hy
  rw [← not_iff_not, not_lt, ← mul_le_zero_iff hx hy, lt_iff_rank_lt isNumber_zero number,
    le_iff_rank_le number isNumber_zero, Int.not_lt]

/-- A product is finite just when it does not overflow. -/
lemma isFinite_mul_iff : (x * y).isFinite = true ↔ ¬ Overflows x y := by
  obtain ⟨r, nearest, number, eq⟩ := rank_mul_exact hx hy
  have pos := unitsOfOne_pos
  have opposite := nearest.neg
  rw [← neg_mul] at opposite
  rw [isFinite_iff_rank number, eq, clamp_finite_iff, neg_lt, nearest.lt_infinity_iff,
    opposite.lt_infinity_iff, Overflows, not_le, abs_lt, neg_lt]

/-! ## What the sign of a product says -/

/-- A product is negative where the signs are opposite and it does not vanish. -/
lemma mul_lt_zero_iff_oppositeSign : x * y < 0.0 ↔ OppositeSign x y ∧ ¬ Vanishes x y := by
  have pos := exact_leastPositive_pos
  rw [mul_lt_zero_iff hx hy, oppositeSign_iff (isNumber_of_isFinite hx) (isNumber_of_isFinite hy),
    Vanishes, not_le]
  constructor
  · intro below
    have neg : exact x * exact y < 0 := by linarith
    rw [abs_of_neg neg]
    exact ⟨neg, by linarith⟩
  · rintro ⟨neg, far⟩
    rw [abs_of_neg neg] at far
    linarith

/-- A product is positive where the signs are the same and it does not vanish. -/
lemma zero_lt_mul_iff_sameSign : 0.0 < x * y ↔ SameSign x y ∧ ¬ Vanishes x y := by
  have least := exact_leastPositive_pos
  rw [zero_lt_mul_iff hx hy, sameSign_iff (isNumber_of_isFinite hx) (isNumber_of_isFinite hy),
    Vanishes, not_le]
  constructor
  · intro above
    have pos : 0 < exact x * exact y := by linarith
    rw [abs_of_pos pos]
    exact ⟨pos, above⟩
  · rintro ⟨pos, far⟩
    rw [abs_of_pos pos] at far
    exact far

end

/-! ## Operands of a finite result -/

section

open Float.Model

/-- What is packed as a finite double is finite. -/
lemma isFinite_of_pack {a : UnpackedFloat} (h : (pack a).unpack.isFinite = true) :
    a.isFinite = true := by
  cases a with
  | notANumber => exact absurd h (by decide)
  | infinity s =>
    rw [unpack_pack_infinity] at h
    exact h
  | zero s => rfl
  | finite s m e hm => rfl

/-- Both operands of a finite sum are finite. -/
lemma isFinite_of_add {x y : Float} (h : (x + y).isFinite = true) :
    x.isFinite = true ∧ y.isFinite = true := by
  have sum : (UnpackedFloat.add .binary64 x.toModel.unpack y.toModel.unpack).isFinite = true :=
    isFinite_of_pack h
  show x.toModel.unpack.isFinite = true ∧ y.toModel.unpack.isFinite = true
  generalize x.toModel.unpack = a, y.toModel.unpack = b at sum ⊢
  cases a with
  | notANumber => cases sum
  | infinity s =>
    cases b with
    | infinity t => cases s <;> cases t <;> cases sum
    | _ => cases sum
  | zero s =>
    cases b with
    | zero t => exact ⟨rfl, rfl⟩
    | finite t n f hn => exact ⟨rfl, rfl⟩
    | _ => cases sum
  | finite s m e hm =>
    cases b with
    | zero t => exact ⟨rfl, rfl⟩
    | finite t n f hn => exact ⟨rfl, rfl⟩
    | _ => cases sum

/-- A double whose half is finite is finite. -/
lemma isFinite_of_half_mul {x : Float} (h : (0.5 * x).isFinite = true) : x.isFinite = true := by
  have product : (UnpackedFloat.mul .binary64 (0.5 : Float).toModel.unpack
    x.toModel.unpack).isFinite = true := isFinite_of_pack h
  obtain ⟨m, e, hm, half⟩ := unpack_of_rank_pos (x := 0.5) rfl (by decide)
  rw [half] at product
  show x.toModel.unpack.isFinite = true
  generalize x.toModel.unpack = a at product ⊢
  cases a with
  | notANumber => cases product
  | infinity s => cases product
  | zero s => rfl
  | finite s n f hn => rfl

end

end PolySurvey.Number
