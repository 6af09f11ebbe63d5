import PolySurvey.Proofs.Number.Whole

/-!
# Arithmetic with zero

Zero added to a double gives a double equal to it, although the sign of a zero may change. A finite
double times zero is a zero of either sign, and adding zero to that gives zero itself. The difference
of equal finite doubles is a zero, and so is zero divided by a positive one.
-/

namespace PolySurvey.Number

open Float.Model

variable {x y c : Float}

/-- Zero is unpacked to zero. -/
lemma unpack_zero : (0.0 : Float).toModel.unpack = .zero .positive := rfl

/-- Zero is equal to itself. -/
lemma zero_beq_zero : ((0.0 : Float) == 0.0) = true := rfl

/-- What is not NaN is a number. -/
lemma isNumber_of_not_isNaN (h : x.isNaN = false) : IsNumber x := by
  intro nan
  have h : x.toModel.unpack.isNaN = false := h
  rw [nan] at h
  cases h

/-- Zero is neutral up to the sign of a zero. -/
lemma beq_zero_add (hx : IsNumber x) : (x == 0.0 + x) = true := by
  by_cases finite : x.isFinite = true
  · obtain ⟨r, nearest, number, eq⟩ := rank_add (x := 0.0) rfl finite
    have zero : valueAt (rank 0.0) = 0 := rfl
    rw [zero, Int.zero_add] at nearest
    obtain ⟨low, high⟩ := (isFinite_iff_rank hx).1 finite
    rw [beq_iff_rank_eq hx number, eq, ← (Nearest.valueAt_self _).unique nearest,
      clamp_of_finite low high]
  · obtain ⟨s, infinite⟩ := exists_unpack_eq_infinity hx finite
    have sum : (0.0 + x).toModel.unpack = .infinity s := by
      show (pack (UnpackedFloat.add .binary64 (.zero .positive) x.toModel.unpack)).unpack = _
      rw [infinite]
      exact unpack_pack_infinity s
    show (x.toModel.unpack.compare (0.0 + x).toModel.unpack == some .eq) = true
    rw [sum, infinite]
    cases s <;> rfl

/-- The sign that a product with zero may have is lost in a sum with zero. -/
lemma zero_mul_add_zero (h : x.isFinite = true) : 0.0 * x + 0.0 = 0.0 := by
  have h : x.toModel.unpack.isFinite = true := h
  have sum (s : UnpackedFloat.Sign) : Float.ofModel (pack (.zero s)) + 0.0 = 0.0 := by
    cases s <;> rfl
  show Float.ofModel (pack (UnpackedFloat.mul .binary64 (0.0 : Float).toModel.unpack
    x.toModel.unpack)) + 0.0 = 0.0
  rw [unpack_zero]
  cases hx : x.toModel.unpack with
  | notANumber =>
    rw [hx] at h
    cases h
  | infinity s =>
    rw [hx] at h
    cases h
  | zero s => exact sum _
  | finite s m e hm => exact sum _

/-- A positive number times zero is zero itself. -/
lemma natCast_mul_zero {n : Nat} (pos : 0 < n) (finite : (n : Float).isFinite = true) :
    (n : Float) * 0.0 = 0.0 := by
  have one := one_le_exact_natCast pos finite
  have number := isNumber_of_isFinite finite
  have above : 0.0 < (n : Float) := (exact_pos_iff number).1 (by linarith)
  obtain ⟨m, e, hm, unpacked⟩ := unpack_of_rank_pos finite ((zero_lt_iff_rank_pos number).1 above)
  show Float.ofModel (pack (UnpackedFloat.mul .binary64 (n : Float).toModel.unpack
    (0.0 : Float).toModel.unpack)) = 0.0
  rw [unpacked, unpack_zero]
  rfl

/-! ## Results that equal zero -/

/-- The difference of doubles that are equal to the same finite one is zero. -/
lemma sub_beq_zero (finite : c.isFinite = true) (hx : (x == c) = true) (hy : (y == c) = true) :
    (y - x == 0.0) = true := by
  obtain ⟨hx, eq⟩ := isFinite_of_beq hx finite
  obtain ⟨hy, eq'⟩ := isFinite_of_beq hy finite
  obtain ⟨r, nearest, number, rounded⟩ := rank_sub hy hx
  rw [eq, eq', Int.sub_self] at nearest
  obtain rfl := nearest.unique (.valueAt_self 0)
  rw [beq_zero_iff_rank_eq_zero number, rounded]
  rfl

/-- Zero divided by a positive finite double is zero. -/
lemma div_beq_zero (zero : (x == 0.0) = true) (hy : y.isFinite = true) (pos : 0 < rank y) :
    (x / y == 0.0) = true := by
  obtain ⟨hx, eq⟩ := isFinite_of_beq zero rfl
  obtain ⟨r, nearest, number, rounded⟩ := rank_div hx hy pos.ne'
  have value : valueAt (rank x) = 0 := congrArg valueAt eq
  rw [value, Int.cast_zero, zero_div, zero_mul] at nearest
  obtain rfl := nearest.unique (.valueAt_self 0)
  rw [beq_zero_iff_rank_eq_zero number, rounded]
  rfl

/-- Zero times a finite double is not above zero. -/
lemma mul_le_zero_of_beq_zero (zero : (x == 0.0) = true) (hy : y.isFinite = true) :
    x * y ≤ 0.0 := by
  obtain ⟨hx, _⟩ := isFinite_of_beq zero rfl
  rw [mul_le_zero_iff hx hy, (exact_eq_zero_iff (isNumber_of_isFinite hx)).2 zero, zero_mul]
  exact (half_pos exact_leastPositive_pos).le

end PolySurvey.Number
