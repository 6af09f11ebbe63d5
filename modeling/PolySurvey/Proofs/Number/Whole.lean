import PolySurvey.Proofs.Number.Range

/-!
# Whole numbers as doubles

A natural number is cast to the double nearest to it, which is finite unless the number is out of the
range of the doubles. From one up it is at least one, so a product with it is zero only if the other
factor is.
-/

namespace PolySurvey.Number

open Float.Model Float.Model.UnpackedFloat

variable {n : Nat} {x y : Float}

/-- The value of one, in units. -/
lemma valueAt_rank_one : (valueAt (rank 1.0) : ℚ) = unitsOfOne := by
  have place : rank 1.0 = ((1022 * 2 ^ 52 + 2 ^ 52 : Nat) : Int) := rfl
  rw [place, valueAt_binade_start, unitsOfOne, Int.cast_pow, Int.cast_ofNat]

/-- One is the neutral factor. -/
lemma rank_mul_one (hx : x.isFinite = true) : IsNumber (x * 1.0) ∧ rank (x * 1.0) = rank x := by
  obtain ⟨r, nearest, number, eq⟩ := rank_mul hx (y := 1.0) rfl
  rw [Int.cast_mul, valueAt_rank_one, mul_div_cancel_right₀ _ unitsOfOne_pos.ne'] at nearest
  obtain ⟨low, high⟩ := (isFinite_iff_rank (isNumber_of_isFinite hx)).1 hx
  rw [eq, nearest.unique (.valueAt_self _), clamp_of_finite low high]
  exact ⟨number, rfl⟩

/-- A value that is not negative is rounded to a finite double just when it is in the range. -/
lemma Nearest.isFinite_iff {v : ℚ} {r : Int} (h : Nearest (v * unitsOfOne) r) (nonneg : 0 ≤ v)
    (number : IsNumber x) (eq : rank x = clamp r) : x.isFinite = true ↔ v < 2 ^ 1024 - 2 ^ 970 := by
  have zero : valueAt 0 = 0 := rfl
  have units := unitsOfOne_pos
  have low : 0 ≤ r := by
    apply h.le_of_le
    rw [zero, Int.cast_zero]
    positivity
  rw [isFinite_iff_rank number, eq, clamp_finite_iff, ← h.lt_infinity_iff]
  constructor
  · exact And.right
  · intro high
    exact ⟨by omega, high⟩

/-! ## The cast -/

/-- A machine word is cast to the nearest double. -/
lemma rank_toFloat (w : UInt64) :
    ∃ r, Nearest (w.toNat * unitsOfOne) r ∧ IsNumber w.toFloat ∧ rank w.toFloat = clamp r := by
  obtain ⟨r, nearest, stands⟩ := standsAt_normalize (w.toNat : Int) (e := 0) (by decide)
  rw [Int.cast_mul, Int.cast_natCast, Int.cast_pow, Int.cast_ofNat] at nearest
  exact ⟨r, nearest, rank_of_standsAt stands rfl⟩

/-- A number of 53 bits is converted through a word. -/
lemma natCast_of_lt (h : n < 2 ^ 53) : (n : Float) = n.toUInt64.toFloat * 1.0 := by
  show Float.ofScientific n false 0 = _
  rw [Float.ofScientific, dif_pos ⟨h, by decide⟩]
  rfl

/-- A longer number is converted as a decimal. -/
lemma natCast_of_le (h : 2 ^ 53 ≤ n) : (n : Float).toModel = Float.Model.ofScientific n 0 := by
  show (Float.ofScientific n false 0).toModel = _
  rw [Float.ofScientific, dif_neg (by omega)]
  rfl

/-- A decimal without places is rounded with 53 digits more, which are zero. -/
lemma ofScientific_eq (hn : n ≠ 0) : UnpackedFloat.ofScientific .binary64 n 0 =
    roundWithAccuracy .binary64 .positive (n <<< 53) (-53) .exact := by
  have digits : Format.binary64.mantissaBits = 53 := rfl
  have exponent : Format.binary64.exponentBits = 11 := rfl
  have above : ¬ (0 : Int) < -(2 ^ 11 + (n.log2 : Int)) := by omega
  rw [UnpackedFloat.ofScientific, dif_neg hn, exponent, if_neg (by decide), if_neg above,
    if_pos (Int.le_refl 0)]
  simp only [UnpackedFloat.mul, digits, Int.toNat_zero, pow_zero, mul_one, Int.add_zero]
  rfl

/-- A whole decimal stands at a place nearest to it. -/
lemma standsAt_ofScientific (hn : n ≠ 0) :
    ∃ r, Nearest (n * unitsOfOne) r ∧ StandsAt (UnpackedFloat.ofScientific .binary64 n 0) r := by
  have digits := log2_shiftLeft hn 53
  have value : ((n <<< 53 : Nat) : ℚ) * 2 ^ ((-53 : Int) + 1074) = n * unitsOfOne := by
    have power : (2 : ℚ) ^ 53 * 2 ^ ((-53 : Int) + 1074) = 2 ^ (1074 : Int) :=
      two_pow_mul_two_zpow (by decide)
    rw [Nat.shiftLeft_eq, Nat.cast_mul, Nat.cast_pow, Nat.cast_ofNat, mul_assoc, power, unitsOfOne]
    rfl
  have located : Locates (n * unitsOfOne) (2 ^ ((-53 : Int) + 1074))
      (.ofMantissaAndAccuracy (n <<< 53) .exact) := by
    rw [← value]
    exact locates_exact (by positivity) _
  obtain ⟨k, nearest, rounded⟩ := roundWithAccuracy_eq located (by omega)
  exact ⟨k, nearest, .positive, k, (ofScientific_eq hn).trans (rounded _), rfl⟩

/-- The numbers that fit a machine word are in the range of the doubles. -/
lemma inside_of_le (h : n ≤ 2 ^ 64) : (n : ℚ) < 2 ^ 1024 - 2 ^ 970 := by
  have word : (n : ℚ) ≤ 2 ^ 64 := by exact_mod_cast h
  have below : (2 : ℚ) ^ 64 < 2 ^ 970 := pow_lt_pow_right₀ one_lt_two (by decide)
  have double : (2 : ℚ) ^ 970 * 2 ≤ 2 ^ 1024 := by
    rw [← pow_succ]
    exact pow_le_pow_right₀ one_le_two (by decide)
  calc (n : ℚ) < 2 ^ 970 := word.trans_lt below
    _ ≤ 2 ^ 1024 - 2 ^ 970 := by rw [le_sub_iff_add_le, ← mul_two]; exact double

/-- A natural number is cast to the nearest double. -/
lemma rank_natCast (n : Nat) :
    ∃ r, Nearest (n * unitsOfOne) r ∧ IsNumber (n : Float) ∧ rank (n : Float) = clamp r := by
  rcases Nat.lt_or_ge n (2 ^ 53) with small | large
  · obtain ⟨r, nearest, number, eq⟩ := rank_toFloat n.toUInt64
    rw [Nat.toUInt64, UInt64.toNat_ofNat', Nat.mod_eq_of_lt (by omega)] at nearest
    have finite := (nearest.isFinite_iff n.cast_nonneg number eq).2 (inside_of_le (by omega))
    rw [natCast_of_lt small]
    obtain ⟨number', eq'⟩ := rank_mul_one finite
    exact ⟨r, nearest, number', eq'.trans eq⟩
  · obtain ⟨r, nearest, stands⟩ := standsAt_ofScientific (n := n) (by omega)
    exact ⟨r, nearest, rank_of_standsAt stands (natCast_of_le large)⟩

/-- A natural number is a finite double below the middle between the largest double and the next power
of two. -/
lemma isFinite_natCast_iff : (n : Float).isFinite = true ↔ (n : ℚ) < 2 ^ 1024 - 2 ^ 970 := by
  obtain ⟨r, nearest, number, eq⟩ := rank_natCast n
  exact nearest.isFinite_iff n.cast_nonneg number eq

/-- A finite double that a positive number is cast to is at least one. -/
lemma one_le_exact_natCast (pos : 0 < n) (finite : (n : Float).isFinite = true) :
    1 ≤ exact (n : Float) := by
  obtain ⟨r, nearest, number, eq⟩ := rank_natCast n
  obtain ⟨low, high⟩ := (isFinite_iff_rank number).1 finite
  rw [eq] at low high
  have units := unitsOfOne_pos
  have one : rank 1.0 ≤ r := by
    apply nearest.le_of_le
    rw [valueAt_rank_one]
    exact le_mul_of_one_le_left units.le (by exact_mod_cast pos)
  have above := valueAt_strictMono.monotone one
  qify at above
  rw [valueAt_rank_one] at above
  rw [exact, eq, clamp_eq_self low high, le_div_iff₀ units, one_mul]
  exact above

/-! ## Products -/

/-- A double that is not zero is at least as far from zero as the least positive double. -/
lemma exact_leastPositive_le (hx : IsNumber x) (nonzero : ¬ (x == 0.0) = true) :
    exact leastPositive ≤ |exact x| := by
  have units := unitsOfOne_pos
  rw [← exact_eq_zero_iff hx, exact, div_eq_zero_iff, or_iff_left units.ne', Int.cast_eq_zero]
    at nonzero
  have least : (1 : ℚ) ≤ |(valueAt (rank x) : ℚ)| := by
    exact_mod_cast Int.one_le_abs nonzero
  rw [exact_leastPositive, exact, abs_div, abs_of_pos units]
  exact div_le_div_of_nonneg_right least units.le

/-- A product of finite doubles is zero just when it vanishes. -/
lemma mul_beq_zero_iff (hx : x.isFinite = true) (hy : y.isFinite = true) :
    (x * y == 0.0) = true ↔ Vanishes x y := by
  obtain ⟨_, _, number, _⟩ := rank_mul hx hy
  have neg := mul_lt_zero_iff hx hy
  have pos := zero_lt_mul_iff hx hy
  rw [lt_iff_rank_lt number isNumber_zero] at neg
  rw [lt_iff_rank_lt isNumber_zero number] at pos
  have zero : rank 0.0 = 0 := rfl
  rw [zero] at neg pos
  rw [beq_zero_iff_rank_eq_zero number, Vanishes, abs_le, ← not_lt, ← not_lt, ← neg, ← pos]
  omega

/-- A product with a factor of at least one is zero only if the other factor is. -/
lemma vanishes_iff_of_one_le (le : 1 ≤ exact x) (hy : IsNumber y) :
    Vanishes x y ↔ (y == 0.0) = true := by
  have least := exact_leastPositive_pos
  constructor
  · intro vanishes
    by_contra nonzero
    have far := exact_leastPositive_le hy nonzero
    have grown : |exact y| ≤ exact x * |exact y| := le_mul_of_one_le_left (abs_nonneg _) le
    rw [Vanishes, abs_mul, abs_of_pos (by linarith)] at vanishes
    linarith
  · intro zero
    rw [Vanishes, (exact_eq_zero_iff hy).2 zero, mul_zero, abs_zero]
    exact (half_pos least).le

/-- Neither NaN nor an infinity is zero. -/
lemma beq_zero_of_not_isFinite (h : ¬ x.isFinite = true) : (x == 0.0) = false := by
  rw [Bool.eq_false_iff]
  exact fun zero => h (isFinite_of_beq zero rfl).1

/-- A product with an operand that is not finite is not finite, unless the other one is zero. -/
lemma not_isFinite_mul (hx : x.isFinite = true) (pos : 0 < rank x) (hy : ¬ y.isFinite = true) :
    ¬ (x * y).isFinite = true := by
  obtain ⟨m, e, hm, unpacked⟩ := unpack_of_rank_pos hx pos
  have hy : ¬ y.toModel.unpack.isFinite = true := hy
  intro finite
  have product : (UnpackedFloat.mul .binary64 x.toModel.unpack y.toModel.unpack).isFinite = true :=
    isFinite_of_pack finite
  rw [unpacked] at product
  cases hd : y.toModel.unpack with
  | notANumber =>
    rw [hd] at product
    cases product
  | infinity s =>
    rw [hd] at product
    cases product
  | zero s => exact absurd rfl (hd ▸ hy)
  | finite s n f hn => exact absurd rfl (hd ▸ hy)

/-- A multiple of any double is zero just when the double is. -/
lemma natCast_mul_beq_zero (pos : 0 < n) (finite : (n : Float).isFinite = true) (y : Float) :
    ((n : Float) * y == 0.0) = (y == 0.0) := by
  have one := one_le_exact_natCast pos finite
  by_cases hy : y.isFinite = true
  · rw [Bool.eq_iff_iff, mul_beq_zero_iff finite hy]
    exact vanishes_iff_of_one_le one (isNumber_of_isFinite hy)
  · have above : 0.0 < (n : Float) := (exact_pos_iff (isNumber_of_isFinite finite)).1 (by linarith)
    have infinite := not_isFinite_mul finite
      ((zero_lt_iff_rank_pos (isNumber_of_isFinite finite)).1 above) hy
    rw [beq_zero_of_not_isFinite infinite, beq_zero_of_not_isFinite hy]

end PolySurvey.Number
