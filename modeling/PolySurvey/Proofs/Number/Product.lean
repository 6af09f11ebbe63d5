import PolySurvey.Proofs.Number.Arithmetic

/-!
# Products of doubles

A product of finite doubles is the place nearest to the exact product. So its sign is that of the
exact product, unless the exact product is too small for any double but zero. Half of a sum lies
between the doubles that are added, as long as their sum stays finite.
-/

namespace PolySurvey.Number

open Float.Model Float.Model.UnpackedFloat

/-- The sign of a product is the product of the signs. -/
lemma apply_mul (s t : Sign) (m n : Nat) :
    (s * t).apply (m * n : Nat) = s.apply m * t.apply n := by
  cases s <;> cases t <;> simp only [Sign.apply] <;> push_cast
  · exact (neg_mul_neg _ _).symm
  · exact (neg_mul _ _).symm
  · exact (mul_neg _ _).symm
  · rfl

/-- The exact product of two significands, in units. -/
lemma value_product (m n : Nat) {e f : Int} (he : -1074 ≤ e) (hf : -1074 ≤ f) :
    ((m * 2 ^ (e + 1074).toNat * (n * 2 ^ (f + 1074).toNat) : Nat) : ℚ) / unitsOfOne =
      (m * n : Nat) * 2 ^ (e + f + 1074) := by
  have power : (2 : ℚ) ^ (e + 1074).toNat * 2 ^ (f + 1074).toNat =
      2 ^ (e + f + 1074) * unitsOfOne := by
    rw [unitsOfOne, ← zpow_natCast, ← zpow_natCast, ← zpow_natCast, ← zpow_add₀ (by norm_num),
      ← zpow_add₀ (by norm_num)]
    congr 1
    omega
  rw [div_eq_iff unitsOfOne_pos.ne']
  push_cast
  calc (m : ℚ) * 2 ^ (e + 1074).toNat * (n * 2 ^ (f + 1074).toNat)
      = m * n * (2 ^ (e + 1074).toNat * 2 ^ (f + 1074).toNat) := by ring
    _ = m * n * 2 ^ (e + f + 1074) * unitsOfOne := by rw [power]; ring

/-- The exact product of two significands has at least 53 digits, unless both doubles are so small that
their product is below the least exponent. -/
lemma exponent_product_le {m n : Nat} {e f : Int} (hm : Normalized m e) (hn : Normalized n f)
    (pos : 0 < m) (pos' : 0 < n) : e + f ≤ max ((m * n).log2 + (e + f) - 52) (-1074) := by
  have nonzero : m * n ≠ 0 := (Nat.mul_pos pos pos').ne'
  obtain ⟨_, _, _, normal⟩ := hm
  obtain ⟨_, _, _, normal'⟩ := hn
  by_cases small : e = -1074 ∧ f = -1074
  · omega
  · have full : 2 ^ 52 ≤ m * n := by
      by_cases first : -1074 < e
      · exact (normal first).trans (Nat.le_mul_of_pos_right m pos')
      · exact (normal' (by omega)).trans (Nat.le_mul_of_pos_left n pos)
    have digits := (Nat.le_log2 nonzero).2 full
    omega

/-- A product of finite doubles stands at the place nearest to the product of their values. -/
lemma standsAt_mul {a b : UnpackedFloat} (ha : Canonical a) (hb : Canonical b)
    (fa : a.isFinite = true) (fb : b.isFinite = true) :
    ∃ r, Nearest ((valueAt (rankUnpacked a) * valueAt (rankUnpacked b) : Int) / unitsOfOne) r ∧
      StandsAt (UnpackedFloat.mul .binary64 a b) r := by
  cases a with
  | notANumber => cases fa
  | infinity s => cases fa
  | zero s =>
    rw [valueAt_rankUnpacked_zero, zero_mul, Int.cast_zero, zero_div]
    refine ⟨0, .valueAt_self 0, ?_⟩
    cases b with
    | notANumber => cases fb
    | infinity t => cases fb
    | zero t => exact standsAt_zero _
    | finite t n f hn => exact standsAt_zero _
  | finite s m e hm =>
    cases b with
    | notANumber => cases fb
    | infinity t => cases fb
    | zero t =>
      rw [valueAt_rankUnpacked_zero, mul_zero, Int.cast_zero, zero_div]
      exact ⟨0, .valueAt_self 0, standsAt_zero _⟩
    | finite t n f hn =>
      -- The significands are multiplied exactly, so only the last step rounds.
      obtain ⟨k, nearest, rounded⟩ := roundWithAccuracy_eq
        (locates_exact (zpow_pos (by norm_num) (e + f + 1074)) (m * n))
        (exponent_product_le ha hb hm hn)
      rw [← value_product m n ha.2.1 hb.2.1] at nearest
      have opposite := nearest.neg
      rw [valueAt_rankUnpacked ha, valueAt_rankUnpacked hb, ← apply_mul]
      refine ⟨(s * t).apply k, ?_, s * t, k, rounded _, rfl⟩
      cases s * t <;> simp only [Sign.apply, Int.cast_neg, Int.cast_natCast, neg_div]
      · exact opposite
      · exact nearest

section

variable {x y : Float}

/-- A product is rounded to the place nearest to the product of the values. -/
lemma rank_mul (hx : x.isFinite = true) (hy : y.isFinite = true) :
    ∃ r, Nearest ((valueAt (rank x) * valueAt (rank y) : Int) / unitsOfOne) r ∧ IsNumber (x * y) ∧
      rank (x * y) = clamp r := by
  obtain ⟨r, nearest, stands⟩ := standsAt_mul (canonical_unpack _) (canonical_unpack _) hx hy
  exact ⟨r, nearest, rank_of_standsAt stands rfl⟩

/-! ## Signs of products -/

/-- A place is not above zero just when the value it is nearest to is at most half of the least
positive double; a half is as near to zero, which is even. -/
lemma Nearest.nonpos_iff {v : ℚ} {r : Int} (h : Nearest v r) : r ≤ 0 ↔ 2 * v ≤ 1 := by
  constructor
  · intro le
    have here := valueAt_strictMono.monotone le
    have next := valueAt_strictMono.monotone (show r + 1 ≤ 1 by omega)
    have zero : valueAt 0 = 0 := rfl
    have one : valueAt 1 = 1 := rfl
    have above := h.above
    rw [zero] at here
    rw [one] at next
    qify at here next
    linarith
  · intro small
    by_contra pos
    have prev := valueAt_strictMono.monotone (show 0 ≤ r - 1 by omega)
    have here := valueAt_strictMono.monotone (show 1 ≤ r by omega)
    have zero : valueAt 0 = 0 := rfl
    have one : valueAt 1 = 1 := rfl
    have below := h.below
    rw [zero] at prev
    rw [one] at here
    qify at prev here
    -- Only the least positive double is left, and it is not even.
    have even := h.even (.inl (by linarith))
    have strict := valueAt_strictMono (show 1 < r by omega)
    rw [one] at strict
    qify at strict
    linarith

/-- Clamping does not change on which side of zero a place is. -/
lemma clamp_nonpos_iff {r : Int} : clamp r ≤ 0 ↔ r ≤ 0 := by
  unfold clamp
  split
  · omega
  · split <;> omega

/-- The number that a finite double denotes. -/
def exact (x : Float) : ℚ := valueAt (rank x) / unitsOfOne

/-- A double is positive where its exact value is. -/
lemma exact_pos_iff (hx : IsNumber x) : 0 < exact x ↔ 0.0 < x := by
  rw [zero_lt_iff_rank_pos hx, exact, div_pos_iff_of_pos_right unitsOfOne_pos, Int.cast_pos]
  exact valueAt_strictMono.lt_iff_lt (a := 0)

/-- A double is negative where its exact value is. -/
lemma exact_neg_iff (hx : IsNumber x) : exact x < 0 ↔ x < 0.0 := by
  rw [lt_iff_rank_lt hx isNumber_zero, exact, div_lt_iff₀ unitsOfOne_pos, zero_mul,
    Int.cast_lt_zero]
  exact valueAt_strictMono.lt_iff_lt (b := 0)

/-- A double is zero where its exact value is. -/
lemma exact_eq_zero_iff (hx : IsNumber x) : exact x = 0 ↔ (x == 0.0) = true := by
  rw [beq_zero_iff_rank_eq_zero hx, exact, div_eq_zero_iff, or_iff_left unitsOfOne_pos.ne',
    Int.cast_eq_zero]
  exact valueAt_strictMono.injective.eq_iff (b := 0)

/-- The least positive double. -/
def leastPositive : Float := 5e-324

/-- The least positive double is one unit. -/
lemma exact_leastPositive : exact leastPositive = 1 / unitsOfOne := by
  have place : rank leastPositive = 1 := by decide +kernel
  have one : valueAt 1 = 1 := rfl
  rw [exact, place, one, Int.cast_one]

/-- The least positive double is positive. -/
lemma exact_leastPositive_pos : 0 < exact leastPositive := by
  rw [exact_leastPositive]
  exact one_div_pos.2 unitsOfOne_pos

/-- A product is at most zero just when the exact product is at most half of the least positive
double. -/
lemma mul_le_zero_iff (hx : x.isFinite = true) (hy : y.isFinite = true) :
    x * y ≤ 0.0 ↔ exact x * exact y ≤ exact leastPositive / 2 := by
  obtain ⟨r, nearest, number, eq⟩ := rank_mul hx hy
  have zero : rank 0.0 = 0 := rfl
  rw [le_iff_rank_le number isNumber_zero, eq, zero, clamp_nonpos_iff, nearest.nonpos_iff]
  have product : exact x * exact y =
      ((valueAt (rank x) * valueAt (rank y) : Int) / unitsOfOne : ℚ) / unitsOfOne := by
    unfold exact
    push_cast
    ring
  rw [product, exact_leastPositive, div_right_comm 1, div_le_div_iff_of_pos_right unitsOfOne_pos]
  constructor <;> intro le <;> linarith

end

end PolySurvey.Number
