import Mathlib
import PolySurvey.Number.Rank

/-!
# Places and values

The finite doubles are multiples of the least positive one. `valueAt` gives the multiple that stands
at a place of the order, and `gapAt` the distance from there to the next place, so every question
about which double comes next is one about integers. The gaps grow away from zero: they double from
one binade to the next, and a binade has `2 ^ 52` places.
-/

namespace PolySurvey.Number

/-! ## From zero up -/

/-- The binade of a place, counted from the least normal doubles; those below them have the same
gaps. -/
def binade (n : Nat) : Nat := n / 2 ^ 52 - 1

/-- The significand of a place. -/
def significand (n : Nat) : Nat := n - binade n * 2 ^ 52

/-- The value at a place. -/
def magnitude (n : Nat) : Nat := significand n * 2 ^ binade n

variable {m n : Nat}

/-- A significand has 53 bits. -/
lemma significand_lt (n : Nat) : significand n < 2 ^ 53 := by
  unfold significand binade
  omega

/-- A place is counted by its binade and its significand. -/
lemma binade_mul_add_significand (n : Nat) : binade n * 2 ^ 52 + significand n = n := by
  unfold significand binade
  omega

/-- A higher place is in no lower binade. -/
lemma binade_mono (h : m ≤ n) : binade m ≤ binade n := by
  unfold binade
  omega

/-- Going up by no more places than a binade has reaches the next binade at most. -/
lemma binade_add_le (h : m ≤ 2 ^ 52) : binade (n + m) ≤ binade n + 1 := by
  unfold binade
  omega

/-- A significand in its range, with its exponent, is where it belongs. -/
lemma binade_place {k : Nat} (hm : m < 2 ^ 53) (hk : k = 0 ∨ 2 ^ 52 ≤ m) :
    binade (k * 2 ^ 52 + m) = k := by
  unfold binade
  omega

/-- The magnitude of a place that is given by a binade and a significand. -/
lemma magnitude_place {k : Nat} (hm : m < 2 ^ 53) (hk : k = 0 ∨ 2 ^ 52 ≤ m) :
    magnitude (k * 2 ^ 52 + m) = m * 2 ^ k := by
  rw [magnitude, significand, binade_place hm hk, Nat.add_sub_cancel_left]

/-- The significand at the end of a binade, with the exponent of that binade, belongs to the next. -/
lemma magnitude_place_le {k : Nat} (hm : m ≤ 2 ^ 53) (hk : k = 0 ∨ 2 ^ 52 ≤ m) :
    magnitude (k * 2 ^ 52 + m) = m * 2 ^ k := by
  rcases Nat.lt_or_ge m (2 ^ 53) with inside | top
  · exact magnitude_place inside hk
  · have full : m = 2 ^ 53 := by omega
    have next : k * 2 ^ 52 + m = (k + 1) * 2 ^ 52 + 2 ^ 52 := by omega
    rw [next, magnitude_place (by decide) (.inr (Nat.le_refl _)), full, Nat.pow_succ]
    omega

/-- The next value from zero up is one gap away, also at the end of a binade. -/
lemma magnitude_succ (n : Nat) : magnitude (n + 1) = magnitude n + 2 ^ binade n := by
  have place := binade_mul_add_significand n
  have inside := significand_lt n
  have normal : binade n = 0 ∨ 2 ^ 52 ≤ significand n + 1 := by
    unfold significand binade
    omega
  calc magnitude (n + 1)
      = magnitude (binade n * 2 ^ 52 + (significand n + 1)) := by rw [← Nat.add_assoc, place]
    _ = (significand n + 1) * 2 ^ binade n := magnitude_place_le inside normal
    _ = magnitude n + 2 ^ binade n := by rw [Nat.succ_mul, magnitude]

/-- Above the subnormal places, a magnitude is at least `2 ^ 52` gaps. -/
lemma gap_mul_le_magnitude (h : 2 ^ 52 ≤ n) : 2 ^ binade n * 2 ^ 52 ≤ magnitude n := by
  have full : 2 ^ 52 ≤ significand n := by
    unfold significand binade
    omega
  rw [magnitude, Nat.mul_comm]
  exact Nat.mul_le_mul_right _ full

/-! ## On both sides of zero -/

/-- The value at a place of the order, in multiples of the least positive double. -/
def valueAt : Int → Int
  | .ofNat n => magnitude n
  | .negSucc n => -magnitude (n + 1)

/-- The distance from a place of the order to the next one. -/
def gapAt : Int → Int
  | .ofNat n => 2 ^ binade n
  | .negSucc n => 2 ^ binade n

variable {r q : Int}

/-- A place that is not negative has its magnitude as value. -/
lemma valueAt_natCast (n : Nat) : valueAt n = magnitude n := rfl

/-- The gap above a place that is not negative is that of its binade. -/
lemma gapAt_natCast (n : Nat) : gapAt n = 2 ^ binade n := rfl

/-- The value of a place that is given by a binade and a significand. -/
lemma valueAt_place {k : Nat} (hm : m < 2 ^ 53) (hk : k = 0 ∨ 2 ^ 52 ≤ m) :
    valueAt ((k * 2 ^ 52 + m : Nat) : Int) = m * 2 ^ k := by
  rw [valueAt_natCast, magnitude_place hm hk]
  push_cast
  rfl

/-- A binade begins at a power of two. -/
lemma valueAt_binade_start (k : Nat) :
    valueAt ((k * 2 ^ 52 + 2 ^ 52 : Nat) : Int) = 2 ^ (52 + k) := by
  rw [valueAt_place (by decide) (.inr le_rfl), Nat.cast_pow, Nat.cast_ofNat, pow_add]

/-- The gap above a place that is given by a binade and a significand. -/
lemma gapAt_place {k : Nat} (hm : m < 2 ^ 53) (hk : k = 0 ∨ 2 ^ 52 ≤ m) :
    gapAt ((k * 2 ^ 52 + m : Nat) : Int) = 2 ^ k := by
  rw [gapAt_natCast, binade_place hm hk]

/-- No gap is empty. -/
lemma gapAt_pos (r : Int) : 0 < gapAt r := by
  cases r with
  | ofNat n => exact Int.pow_pos (by decide)
  | negSucc n => exact Int.pow_pos (by decide)

/-- One place higher, the value is larger by the gap between them. -/
lemma valueAt_succ (r : Int) : valueAt (r + 1) = valueAt r + gapAt r := by
  cases r with
  | ofNat n =>
    have := magnitude_succ n
    show ((magnitude (n + 1) : Nat) : Int) = magnitude n + 2 ^ binade n
    rw [this]
    push_cast
    rfl
  | negSucc n =>
    cases n with
    | zero => decide
    | succ n =>
      have := magnitude_succ (n + 1)
      show -((magnitude (n + 1) : Nat) : Int) = -(magnitude (n + 1 + 1) : Nat) + 2 ^ binade (n + 1)
      rw [this]
      push_cast
      omega

/-- A higher place has a larger value. -/
lemma valueAt_strictMono : StrictMono valueAt :=
  strictMono_int_of_lt_succ fun r => by
    have := valueAt_succ r
    have := gapAt_pos r
    omega

/-- Opposite places have opposite values. -/
lemma valueAt_neg (r : Int) : valueAt (-r) = -valueAt r := by
  cases r with
  | ofNat n =>
    cases n with
    | zero => rfl
    | succ n => rfl
  | negSucc n => exact (Int.neg_neg _).symm

/-! ## How the gaps grow -/

/-- The gap above a place that is not negative. -/
lemma gapAt_of_nonneg (h : 0 ≤ r) : gapAt r = 2 ^ binade r.toNat := by
  cases r with
  | ofNat n => rfl
  | negSucc n => cases h

/-- The gap above a negative place is the one below its opposite. -/
lemma gapAt_of_neg (h : r < 0) : gapAt r = 2 ^ binade (-r - 1).toNat := by
  cases r with
  | ofNat n => exact absurd h (Int.not_lt.2 (Int.natCast_nonneg n))
  | negSucc n =>
    have : (-Int.negSucc n - 1).toNat = n := by omega
    rw [this]
    rfl

/-- Powers of two grow with the exponent. -/
lemma two_pow_le_two_pow {a b : Nat} (h : a ≤ b) : (2 : Int) ^ a ≤ 2 ^ b :=
  pow_le_pow_right₀ (by decide) h

/-- Away from zero the gaps grow. -/
lemma gapAt_le_of_nonneg (hr : 0 ≤ r) (h : r ≤ q) : gapAt r ≤ gapAt q := by
  rw [gapAt_of_nonneg hr, gapAt_of_nonneg (hr.trans h)]
  exact two_pow_le_two_pow (binade_mono (by omega))

/-- On the other side of zero they shrink towards it. -/
lemma gapAt_le_of_neg (hq : q < 0) (h : r ≤ q) : gapAt q ≤ gapAt r := by
  rw [gapAt_of_neg hq, gapAt_of_neg (h.trans_lt hq)]
  exact two_pow_le_two_pow (binade_mono (by omega))

/-- Between two places the gaps are no larger than at one of them. -/
lemma gapAt_le_or {a b : Int} (ha : a ≤ r) (hb : r ≤ b) :
    gapAt r ≤ gapAt a ∧ r < 0 ∨ gapAt r ≤ gapAt b ∧ 0 ≤ r := by
  rcases Int.lt_or_le r 0 with neg | nonneg
  · exact .inl ⟨gapAt_le_of_neg neg ha, neg⟩
  · exact .inr ⟨gapAt_le_of_nonneg nonneg hb, nonneg⟩

/-- Going up by no more places than a binade has doubles the gap at most. -/
lemma gapAt_add_le {j : Int} (hj : 0 ≤ j) (hj' : j ≤ 2 ^ 52) : gapAt (r + j) ≤ 2 * gapAt r := by
  have pos := gapAt_pos r
  rcases Int.lt_or_le r 0 with neg | nonneg
  · rcases Int.lt_or_le (r + j) 0 with below | above
    · have := gapAt_le_of_neg below (show r ≤ r + j by omega)
      omega
    · -- Zero is passed, and within so few places from it the gaps are least.
      have lowest : binade (r + j).toNat = 0 := by
        unfold binade
        omega
      rw [gapAt_of_nonneg above, lowest]
      omega
  · have place : (r + j).toNat = r.toNat + j.toNat := by omega
    have := two_pow_le_two_pow (binade_add_le (n := r.toNat) (m := j.toNat) (by omega))
    rw [Int.pow_succ] at this
    rw [gapAt_of_nonneg nonneg, gapAt_of_nonneg (by omega), place]
    omega

/-- The gap only grows where a binade begins: that place is even, not below zero, and there the gap
doubles. -/
lemma gapAt_succ_of_lt (h : gapAt r < gapAt (r + 1)) :
    0 ≤ r ∧ (r + 1) % 2 = 0 ∧ gapAt (r + 1) = 2 * gapAt r := by
  have nonneg : 0 ≤ r := by
    by_contra neg
    rcases Int.lt_or_le (r + 1) 0 with below | _
    · have := gapAt_le_of_neg below (show r ≤ r + 1 by omega)
      omega
    · obtain rfl : r = -1 := by omega
      exact absurd h (by decide)
  -- Two places of one binade have the same gap, so the next place is the first of its binade.
  have grows : binade r.toNat < binade (r + 1).toNat := by
    by_contra stays
    have := two_pow_le_two_pow (Nat.le_of_not_lt stays)
    rw [← gapAt_of_nonneg (by omega), ← gapAt_of_nonneg nonneg] at this
    omega
  have next : binade (r + 1).toNat = binade r.toNat + 1 := by
    unfold binade at *
    omega
  refine ⟨nonneg, ?_, ?_⟩
  · unfold binade at grows
    omega
  · rw [gapAt_of_nonneg (by omega), gapAt_of_nonneg nonneg, next, pow_succ, mul_comm]

/-- In the lowest two binades the gap is one unit. -/
lemma gapAt_of_lt (h : 0 ≤ r) (h' : r < 2 ^ 53) : gapAt r = 1 := by
  have lowest : binade r.toNat = 0 := by
    unfold binade
    omega
  rw [gapAt_of_nonneg h, lowest, pow_zero]

/-- From the least normal double up, a value is at least `2 ^ 52` gaps. -/
lemma gapAt_mul_le_valueAt (h : 2 ^ 52 ≤ r) : gapAt r * 2 ^ 52 ≤ valueAt r := by
  obtain ⟨n, rfl⟩ := Int.eq_ofNat_of_zero_le (show 0 ≤ r by omega)
  rw [gapAt_natCast, valueAt_natCast]
  exact_mod_cast gap_mul_le_magnitude (show 2 ^ 52 ≤ n by omega)

/-- The value of a place that is not negative is not negative. -/
lemma valueAt_nonneg (h : 0 ≤ r) : 0 ≤ valueAt r := valueAt_strictMono.monotone h

/-- A binade whose gaps are even begins at an even place, and below it there is a whole binade whose
gaps are half as large. -/
lemma exists_binade_start {s : Int} (hr : 0 ≤ r) (h : gapAt r = 2 * s) :
    ∃ q, 0 ≤ q ∧ q ≤ r ∧ q % 2 = 0 ∧ gapAt q = 2 * s ∧ valueAt q = 2 ^ 53 * s ∧
      valueAt (q - 2 ^ 52) = 2 ^ 52 * s ∧ ∀ p, q - 2 ^ 52 ≤ p → p < q → gapAt p = s := by
  rw [gapAt_of_nonneg hr] at h
  obtain ⟨k, hk⟩ : ∃ k, binade r.toNat = k + 1 := by
    refine Nat.exists_eq_succ_of_ne_zero fun lowest => ?_
    rw [lowest, pow_zero] at h
    omega
  have half : s = 2 ^ k := by
    rw [hk, pow_succ] at h
    omega
  have start : ((k * 2 ^ 52 + 2 ^ 52 : Nat) : Int) = ((k + 1) * 2 ^ 52 + 2 ^ 52 : Nat) - 2 ^ 52 := by
    push_cast
    ring
  have last : ((k * 2 ^ 52 + (2 ^ 53 - 1) : Nat) : Int) = ((k + 1) * 2 ^ 52 + 2 ^ 52 : Nat) - 1 := by
    push_cast
    ring
  -- The binade begins where its leading digit stands alone.
  refine ⟨((k + 1) * 2 ^ 52 + 2 ^ 52 : Nat), Int.natCast_nonneg _, ?_, by omega, ?_, ?_, ?_, ?_⟩
  · unfold binade at hk
    omega
  · rw [gapAt_place (by decide) (.inr le_rfl), half, pow_succ, mul_comm]
  · rw [valueAt_place (by decide) (.inr le_rfl), half, pow_succ]
    push_cast
    ring
  · rw [← start, valueAt_place (by decide) (.inr le_rfl), half]
    push_cast
    rfl
  · intro p low high
    rw [← start] at low
    -- The gaps of a binade lie between those at its ends, which are the same.
    have first := gapAt_le_of_nonneg (Int.natCast_nonneg _) low
    have final := gapAt_le_of_nonneg (low.trans' (Int.natCast_nonneg _)) (Int.le_sub_one_of_lt high)
    rw [gapAt_place (by decide) (.inr le_rfl), ← half] at first
    rw [← last, gapAt_place (by decide) (.inr (by decide)), ← half] at final
    exact final.antisymm first

end PolySurvey.Number
