import PolySurvey.Proofs.Number.Nearest

/-!
# Rounding to doubles

An exact result is held as a significand with two residual bits, which say where the value lies above
the significand. Dropping a binary digit keeps that knowledge, so it survives the shift to 53 digits,
and rounding by the residual bits gives the nearest place of the order.
-/

namespace PolySurvey.Number

open Float.Model Float.Model.UnpackedFloat

/-! ## Residual bits -/

/-- Where a value lies above a significand, in a unit, according to the residual bits. -/
structure Locates (v unit : ℚ) (em : ExtendedMantissa) : Prop where
  /-- The value is not below the significand. -/
  ge : em.mantissa * unit ≤ v
  /-- The value is below the next significand. -/
  lt : v < (em.mantissa + 1) * unit
  /-- The round bit says whether the value is at least halfway between them. -/
  half : em.roundBit = true ↔ (2 * em.mantissa + 1) * unit ≤ 2 * v
  /-- The sticky bit says whether the value is neither at the significand nor halfway. -/
  rest : em.stickyBit = true ↔ v ≠ em.mantissa * unit ∧ 2 * v ≠ (2 * em.mantissa + 1) * unit

namespace Locates

variable {v unit : ℚ} {em : ExtendedMantissa} (h : Locates v unit em) (hu : 0 < unit)

include h hu

/-- One of the two bits is set just when the value is not the mantissa itself. -/
lemma residual_iff : (em.roundBit || em.stickyBit) = true ↔ v ≠ em.mantissa * unit := by
  rw [Bool.or_eq_true, h.half, h.rest]
  constructor
  · rintro (half | ⟨ne, _⟩) eq
    · rw [eq] at half
      linarith
    · exact ne eq
  · intro ne
    rcases eq_or_ne (2 * v) ((2 * em.mantissa + 1) * unit) with half | half
    · exact .inl half.ge
    · exact .inr ⟨ne, half⟩

/-- Dropping a binary digit doubles the unit. -/
lemma shiftRightOne : Locates v (2 * unit) em.shiftRightOne := by
  have ge := h.ge
  have lt := h.lt
  have residual := h.residual_iff hu
  obtain ⟨m, roundBit, stickyBit⟩ := em
  obtain ⟨n, rfl | rfl⟩ := Nat.even_or_odd' m
  · -- The digit is zero, so the value stays below the middle of the doubled unit.
    have half : 2 * n / 2 = n := by omega
    push_cast at ge lt residual
    refine ⟨?_, ?_, ?_, ?_⟩ <;> simp only [ExtendedMantissa.shiftRightOne, half]
    · linarith
    · linarith
    · simp only [Nat.mul_mod_right, bne_self_eq_false, Bool.false_eq_true, false_iff, not_le]
      linarith
    · rw [residual]
      constructor
      · intro ne
        exact ⟨fun eq => ne (by linarith), fun eq => by linarith⟩
      · rintro ⟨ne, _⟩ eq
        exact ne (by linarith)
  · -- The digit is one, and the middle of the doubled unit is where the significand was.
    have half : (2 * n + 1) / 2 = n := by omega
    have odd : ((2 * n + 1) % 2 != 0) = true := by simp [Nat.add_mod]
    push_cast at ge lt residual
    refine ⟨?_, ?_, ?_, ?_⟩ <;> simp only [ExtendedMantissa.shiftRightOne, half]
    · linarith
    · linarith
    · simp only [odd, true_iff]
      linarith
    · rw [residual]
      constructor
      · intro ne
        exact ⟨fun eq => by linarith, fun eq => ne (by linarith)⟩
      · rintro ⟨_, ne⟩ eq
        exact ne (by linarith)

/-- A value that is located stays so when its mantissa is shifted, in longer units. -/
lemma shiftRight (n : Nat) : Locates v (2 ^ n * unit) (em >>> n) := by
  induction n with
  | zero =>
    rw [pow_zero, one_mul]
    exact h
  | succ n ih =>
    have := ih.shiftRightOne (by positivity)
    rw [← mul_assoc, mul_comm 2, ← pow_succ] at this
    exact this

/-- Rounding by the residual bits gives the nearest multiple of the unit, and the even one of two that
are equally near. -/
lemma roundedMantissa :
    (em.roundedMantissa = em.mantissa ∨
      em.roundedMantissa = em.mantissa + 1 ∧ (2 * em.mantissa + 1) * unit ≤ 2 * v) ∧
    (2 * (em.roundedMantissa : ℚ) - 1) * unit ≤ 2 * v ∧
    2 * v ≤ (2 * em.roundedMantissa + 1) * unit ∧
    (((2 * (em.roundedMantissa : ℚ) - 1) * unit = 2 * v ∨
      2 * v = (2 * em.roundedMantissa + 1) * unit) → em.roundedMantissa % 2 = 0) := by
  have ge := h.ge
  have lt := h.lt
  have half := h.half
  have rest := h.rest
  obtain ⟨m, roundBit, stickyBit⟩ := em
  dsimp only at ge lt half rest
  cases roundBit with
  | false =>
    have below : 2 * v < (2 * m + 1) * unit := by simpa using half
    have rounded : ExtendedMantissa.roundedMantissa ⟨m, false, stickyBit⟩ = m := by
      cases stickyBit <;> rfl
    rw [rounded]
    refine ⟨.inl rfl, by linarith, below.le, ?_⟩
    rintro (tie | tie) <;> linarith
  | true =>
    have above : (2 * m + 1) * unit ≤ 2 * v := half.1 rfl
    cases stickyBit with
    | true =>
      have strict : 2 * v ≠ (2 * m + 1) * unit := (rest.1 rfl).2
      have rounded : ExtendedMantissa.roundedMantissa ⟨m, true, true⟩ = m + 1 := rfl
      rw [rounded]
      push_cast
      refine ⟨.inr ⟨rfl, above⟩, by linarith, by linarith, ?_⟩
      rintro (tie | tie)
      · exact absurd (by linarith) strict
      · linarith
    | false =>
      -- Only a value in the middle has its round bit alone.
      have tie : 2 * v = (2 * m + 1) * unit := by
        by_contra ne
        have off : v ≠ m * unit := by
          intro eq
          linarith
        exact Bool.false_ne_true (rest.2 ⟨off, ne⟩)
      have rounded : ExtendedMantissa.roundedMantissa ⟨m, true, false⟩ = m + m % 2 := rfl
      rw [rounded]
      rcases Nat.mod_two_eq_zero_or_one m with even | odd
      · rw [even, Nat.add_zero]
        exact ⟨.inl rfl, by linarith, by linarith, fun _ => even⟩
      · rw [odd]
        push_cast
        exact ⟨.inr ⟨rfl, above⟩, by linarith, by linarith, fun _ => by omega⟩

end Locates

/-- The nearest multiple of a unit is the nearest place, when the next place is no nearer than the next
multiple, and the place before is the multiple before or the value is not below the place. -/
lemma nearest_of_multiple {v unit : ℚ} {n : Int} {m : Nat}
    (here : (valueAt n : ℚ) = m * unit) (next : unit ≤ gapAt n)
    (prev : (valueAt n : ℚ) ≤ v ∨ (valueAt (n - 1) : ℚ) = (m - 1) * unit)
    (below : (2 * (m : ℚ) - 1) * unit ≤ 2 * v) (above : 2 * v ≤ (2 * m + 1) * unit)
    (even : ((2 * (m : ℚ) - 1) * unit = 2 * v ∨ 2 * v = (2 * m + 1) * unit) → n % 2 = 0) :
    Nearest v n := by
  have pred := valueAt_strictMono (sub_one_lt n)
  have succ := valueAt_succ n
  qify at pred succ
  refine ⟨?_, ?_, ?_⟩
  · rcases prev with ge | prev
    · linarith
    · linarith
  · linarith
  · rintro (tie | tie)
    · rcases prev with ge | prev
      · linarith
      · exact even (.inl (by linarith))
    · exact even (.inr (by linarith))

/-- Rounding a significand of 53 binary digits, or of fewer at the least exponent, gives the nearest
place. -/
lemma Locates.nearest {v : ℚ} {em : ExtendedMantissa} {k : Nat} (h : Locates v (2 ^ k) em)
    (lt : em.mantissa < 2 ^ 53) (normal : k = 0 ∨ 2 ^ 52 ≤ em.mantissa) :
    Nearest v ((k * 2 ^ 52 + em.roundedMantissa : Nat) : Int) := by
  obtain ⟨rounded, below, above, even⟩ := h.roundedMantissa (by positivity)
  have ge := h.ge
  generalize em.roundedMantissa = r at *
  generalize em.mantissa = m at *
  have here : (valueAt ((k * 2 ^ 52 + r : Nat) : Int) : ℚ) = r * 2 ^ k := by
    rw [valueAt_natCast, magnitude_place_le (by omega) (by omega)]
    norm_cast
  have next : (2 : ℚ) ^ k ≤ gapAt ((k * 2 ^ 52 + r : Nat) : Int) := by
    have grown : k ≤ binade (k * 2 ^ 52 + r) := by
      unfold binade
      omega
    rw [gapAt_natCast]
    exact_mod_cast two_pow_le_two_pow grown
  apply nearest_of_multiple here next ?_ below above
  · intro tie
    have := even tie
    omega
  · -- Rounded down, the place is below the value; rounded up, the place before it is.
    rcases rounded with rfl | ⟨rfl, _⟩
    · exact .inl (here.le.trans ge)
    · right
      have place : ((k * 2 ^ 52 + (m + 1) : Nat) : Int) - 1 = ((k * 2 ^ 52 + m : Nat) : Int) := by
        omega
      rw [place, valueAt_natCast, magnitude_place lt normal]
      push_cast
      ring

/-! ## Shifting to a place -/

/-- The double at a place from zero up, with a sign. -/
def unpackedAt (s : Sign) (n : Nat) : UnpackedFloat :=
  if h : significand n = 0 then .zero s
  else .finite s (significand n) (binade n - 1074) (Nat.pos_of_ne_zero h)

/-- The exponent that a significand should have: 53 binary digits, but not below the least one. -/
lemma targetExponent_eq (m : Nat) (e : Int) :
    Format.binary64.targetExponent (totalExponent m e) = max (m.log2 + e - 52) (-1074) := by
  show max ((m.log2 : Int) + 1 + e - ((1 + 52 : Nat) : Int)) (-1074) = _
  congr 1
  omega

/-- The mantissa is the one that was given. -/
lemma mantissa_ofMantissaAndAccuracy (m : Nat) (acc : Accuracy) :
    (ExtendedMantissa.ofMantissaAndAccuracy m acc).mantissa = m := by
  cases acc with
  | exact => rfl
  | inexact order => cases order <;> rfl

/-- A shift divides the mantissa by a power of two. -/
lemma mantissa_shiftRight (em : ExtendedMantissa) (n : Nat) :
    (em >>> n).mantissa = em.mantissa / 2 ^ n := by
  induction n with
  | zero => exact (Nat.div_one _).symm
  | succ n ih =>
    show (em >>> n).mantissa / 2 = _
    rw [ih, Nat.div_div_eq_div_mul, Nat.pow_succ]

/-! ### Binary digits -/

/-- Powers of two, one with a natural exponent, are multiplied by adding the exponents. -/
lemma two_pow_mul_two_zpow {n : Nat} {a b : Int} (h : n + a = b) : (2 : ℚ) ^ n * 2 ^ a = 2 ^ b := by
  rw [← zpow_natCast, ← zpow_add₀ (by norm_num), h]

/-- A shift to the left adds to the logarithm. -/
lemma log2_shiftLeft {m : Nat} (hm : m ≠ 0) (n : Nat) : (m <<< n).log2 = m.log2 + n := by
  have pos : 0 < 2 ^ n := Nat.two_pow_pos n
  rw [Nat.shiftLeft_eq, Nat.log2_eq_iff (Nat.mul_ne_zero hm pos.ne')]
  constructor
  · rw [Nat.pow_add]
    exact Nat.mul_le_mul_right _ (Nat.log2_self_le hm)
  · rw [Nat.add_right_comm, Nat.pow_add]
    exact Nat.mul_lt_mul_of_pos_right Nat.lt_log2_self pos

/-- A number that loses enough bits has no more than 53. -/
lemma div_two_pow_lt {m n : Nat} (h : m.log2 ≤ 52 + n) : m / 2 ^ n < 2 ^ 53 := by
  rw [Nat.div_lt_iff_lt_mul (Nat.two_pow_pos n), ← Nat.pow_add]
  exact Nat.lt_log2_self.trans_le (Nat.pow_le_pow_right (by decide) (by omega))

/-- A number that loses no more bits than needed keeps 53. -/
lemma le_div_two_pow {m n : Nat} (h : m.log2 = 52 + n) : 2 ^ 52 ≤ m / 2 ^ n := by
  have hm : m ≠ 0 := by
    rintro rfl
    rw [Nat.log2_zero] at h
    omega
  rw [Nat.le_div_iff_mul_le (Nat.two_pow_pos n), ← Nat.pow_add, ← h]
  exact Nat.log2_self_le hm

/-- A quotient has as many bits as its dividend has more than its divisor. -/
lemma le_log2_shiftLeft_div {m₁ m₂ k n : Nat} (h₁ : m₁ ≠ 0) (h₂ : m₂ ≠ 0)
    (h : k + (m₂.log2 + 1) ≤ m₁.log2 + n) : k ≤ ((m₁ <<< n) / m₂).log2 := by
  have full : 2 ^ k ≤ (m₁ <<< n) / m₂ := by
    rw [Nat.le_div_iff_mul_le (Nat.pos_of_ne_zero h₂), Nat.shiftLeft_eq]
    calc 2 ^ k * m₂
        ≤ 2 ^ k * 2 ^ (m₂.log2 + 1) := Nat.mul_le_mul_left _ Nat.lt_log2_self.le
      _ = 2 ^ (k + (m₂.log2 + 1)) := (Nat.pow_add ..).symm
      _ ≤ 2 ^ (m₁.log2 + n) := Nat.pow_le_pow_right (by decide) h
      _ = 2 ^ m₁.log2 * 2 ^ n := Nat.pow_add ..
      _ ≤ m₁ * 2 ^ n := Nat.mul_le_mul_right _ (Nat.log2_self_le h₁)
  exact (Nat.le_log2 ((Nat.two_pow_pos k).trans_le full).ne').2 full

/-! ### The shift -/

/-- A significand of 53 binary digits is left alone; one with a digit more loses it. -/
lemma shiftToTargetExponent_exact {k m : Nat} (hm : m ≤ 2 ^ 53) (hk : k = 0 ∨ 2 ^ 52 ≤ m) :
    (shiftToTargetExponent .binary64 m (k - 1074) .exact).1.mantissa =
        significand (k * 2 ^ 52 + m) ∧
      (shiftToTargetExponent .binary64 m (k - 1074) .exact).2 =
        binade (k * 2 ^ 52 + m) - 1074 := by
  simp only [shiftToTargetExponent, shiftToExponent, targetExponent_eq, mantissa_shiftRight,
    mantissa_ofMantissaAndAccuracy]
  -- A mantissa that rounding has filled up has one digit too many, and is shifted once more.
  rcases Nat.lt_or_ge m (2 ^ 53) with inside | top
  · have digits : m.log2 ≤ 52 := by
      by_cases zero : m = 0
      · rw [zero]
        decide
      · exact Nat.le_of_lt_succ ((Nat.log2_lt zero).2 inside)
    have stay : (max ((m.log2 : Int) + (k - 1074) - 52) (-1074) - (k - 1074)).toNat = 0 := by omega
    rw [stay, significand, binade_place inside hk, pow_zero, Nat.div_one]
    omega
  · have full : m = 2 ^ 53 := by omega
    have place : k * 2 ^ 52 + 2 ^ 53 = (k + 1) * 2 ^ 52 + 2 ^ 52 := by omega
    have shift : (max (((2 ^ 53).log2 : Int) + (k - 1074) - 52) (-1074) - (k - 1074)).toNat = 1 := by
      rw [Nat.log2_two_pow]
      omega
    rw [full, shift, significand, place, binade_place (by decide) (.inr (Nat.le_refl _))]
    omega

/-- A number without a remainder locates itself. -/
lemma locates_exact {unit : ℚ} (hu : 0 < unit) (m : Nat) :
    Locates (m * unit) unit (.ofMantissaAndAccuracy m .exact) := by
  refine ⟨?_, ?_, ?_, ?_⟩ <;> simp only [ExtendedMantissa.ofMantissaAndAccuracy]
  · exact le_rfl
  · linarith
  · simp only [Bool.false_eq_true, false_iff, not_le]
    linarith
  · simp

/-- The residual bits of a remainder. -/
lemma residual_accuracyOfFraction (m : Nat) {r den : Nat} (hd : 0 < den) :
    ((ExtendedMantissa.ofMantissaAndAccuracy m (accuracyOfFraction r den)).roundBit = true ↔
        den ≤ 2 * r) ∧
      ((ExtendedMantissa.ofMantissaAndAccuracy m (accuracyOfFraction r den)).stickyBit = true ↔
        r ≠ 0 ∧ 2 * r ≠ den) := by
  unfold accuracyOfFraction
  by_cases zero : r = 0
  · simp [zero, ExtendedMantissa.ofMantissaAndAccuracy]
    omega
  · rw [if_neg zero]
    cases order : compare (2 * r) den with
    | lt =>
      have := Nat.compare_eq_lt.1 order
      simp [ExtendedMantissa.ofMantissaAndAccuracy]
      omega
    | eq =>
      have := Nat.compare_eq_eq.1 order
      simp [ExtendedMantissa.ofMantissaAndAccuracy]
      omega
    | gt =>
      have := Nat.compare_eq_gt.1 order
      simp [ExtendedMantissa.ofMantissaAndAccuracy]
      omega

/-- A quotient of natural numbers, with the remainder as its residual bits. -/
lemma locates_quotient {unit : ℚ} (hu : 0 < unit) (num : Nat) {den : Nat} (hd : 0 < den) :
    Locates ((num : ℚ) / den * unit) unit
      (.ofMantissaAndAccuracy (num / den) (accuracyOfFraction (num % den) den)) := by
  have hd' : (0 : ℚ) < den := by exact_mod_cast hd
  -- In parts of a unit as small as the divisor asks for, all that is compared is whole.
  obtain ⟨w, hw, rfl⟩ : ∃ w : ℚ, 0 < w ∧ unit = den * w :=
    ⟨unit / den, div_pos hu hd', by field_simp⟩
  have value : (num : ℚ) / den * (den * w) = (den * (num / den : Nat) + (num % den : Nat)) * w := by
    have := Nat.div_add_mod num den
    have cast : (num : ℚ) = den * (num / den : Nat) + (num % den : Nat) := by exact_mod_cast this.symm
    rw [← cast]
    field_simp
  have rem_lt := Nat.mod_lt num hd
  rw [value]
  generalize num / den = q
  generalize num % den = r at rem_lt
  have lt : (r : ℚ) * w < den * w := mul_lt_mul_of_pos_right (by exact_mod_cast rem_lt) hw
  have nonneg : 0 ≤ (r : ℚ) * w := by positivity
  obtain ⟨roundBit, stickyBit⟩ := residual_accuracyOfFraction q (r := r) hd
  refine ⟨?_, ?_, ?_, ?_⟩ <;> rw [mantissa_ofMantissaAndAccuracy]
  · linarith
  · linarith
  · have half : den ≤ 2 * r ↔ (den : ℚ) * w ≤ 2 * r * w := by
      rw [mul_le_mul_iff_left₀ hw]
      norm_cast
    rw [roundBit, half]
    constructor <;> intro le <;> linarith
  · have zero : r ≠ 0 ↔ (r : ℚ) * w ≠ 0 := by
      rw [mul_ne_zero_iff_right hw.ne', Nat.cast_ne_zero]
    have half : 2 * r ≠ den ↔ 2 * (r : ℚ) * w ≠ den * w := by
      rw [Ne, Ne, mul_left_inj' hw.ne']
      norm_cast
    rw [stickyBit, zero, half]
    constructor
    · rintro ⟨ne, ne'⟩
      exact ⟨fun eq => ne (by linarith), fun eq => ne' (by linarith)⟩
    · rintro ⟨ne, ne'⟩
      exact ⟨fun eq => ne (by linarith), fun eq => ne' (by linarith)⟩

/-- Rounding a significand whose exponent is not too large: the result stands at the place that is
nearest to the value. -/
lemma roundWithAccuracy_eq {v : ℚ} {m : Nat} {e : Int} {acc : Accuracy}
    (h : Locates v (2 ^ (e + 1074)) (.ofMantissaAndAccuracy m acc))
    (he : e ≤ max (m.log2 + e - 52) (-1074)) :
    ∃ n : Nat, Nearest v n ∧ ∀ s, roundWithAccuracy .binary64 s m e acc = unpackedAt s n := by
  obtain ⟨k, hk⟩ : ∃ k : Nat, max ((m.log2 : Int) + e - 52) (-1074) = k - 1074 :=
    ⟨(max ((m.log2 : Int) + e - 52) (-1074) + 1074).toNat, by omega⟩
  obtain ⟨shift, hs⟩ : ∃ shift : Nat, (k : Int) - 1074 - e = shift :=
    ⟨((k : Int) - 1074 - e).toNat, by omega⟩
  have digits : m.log2 ≤ 52 + shift := by omega
  have first : shiftToTargetExponent .binary64 m e acc =
      (ExtendedMantissa.ofMantissaAndAccuracy m acc >>> shift, (k : Int) - 1074) := by
    have back : e + (shift : Int) = k - 1074 := by omega
    rw [shiftToTargetExponent, shiftToExponent, targetExponent_eq, hk, hs, Int.toNat_natCast, back]
  have located := h.shiftRight (by positivity) shift
  rw [two_pow_mul_two_zpow (b := k) (by omega), zpow_natCast] at located
  have mantissa : (ExtendedMantissa.ofMantissaAndAccuracy m acc >>> shift).mantissa =
      m / 2 ^ shift := by
    rw [mantissa_shiftRight, mantissa_ofMantissaAndAccuracy]
  have lt := div_two_pow_lt digits
  -- Above the least exponent, the shift leaves exactly 53 digits.
  have normal : k = 0 ∨ 2 ^ 52 ≤ m / 2 ^ shift := by
    rcases Nat.eq_zero_or_pos k with zero | pos
    · exact .inl zero
    · exact .inr (le_div_two_pow (by omega))
  rw [← mantissa] at lt normal
  obtain ⟨rounded, _⟩ := located.roundedMantissa (by positivity)
  refine ⟨_, located.nearest lt normal, fun s => ?_⟩
  obtain ⟨significand_eq, exponent_eq⟩ := shiftToTargetExponent_exact (k := k)
    (m := (ExtendedMantissa.ofMantissaAndAccuracy m acc >>> shift).roundedMantissa)
    (by omega) (by omega)
  simp only [roundWithAccuracy, first, significand_eq, exponent_eq, unpackedAt]

/-- Rounding a significand with any exponent that is not below the least one. -/
lemma round_eq {m : Nat} {e : Int} (hm : m ≠ 0) (he : -1074 ≤ e) :
    ∃ n : Nat, Nearest ((m * 2 ^ (e + 1074).toNat : Nat) : ℚ) n ∧
      ∀ s, UnpackedFloat.round .binary64 s m e = unpackedAt s n := by
  obtain ⟨shift, hs⟩ : ∃ shift : Nat, (e - max ((m.log2 : Int) + e - 52) (-1074)).toNat = shift :=
    ⟨_, rfl⟩
  have digits := log2_shiftLeft hm shift
  have value : ((m * 2 ^ (e + 1074).toNat : Nat) : ℚ) =
      (m <<< shift : Nat) * 2 ^ (e - shift + 1074) := by
    have power : (2 : ℚ) ^ shift * 2 ^ (e - shift + 1074) = 2 ^ ((e + 1074).toNat : Int) :=
      two_pow_mul_two_zpow (by omega)
    rw [Nat.shiftLeft_eq]
    push_cast
    rw [mul_assoc, power, zpow_natCast]
  have located : Locates ((m * 2 ^ (e + 1074).toNat : Nat) : ℚ) (2 ^ (e - shift + 1074))
      (.ofMantissaAndAccuracy (m <<< shift) .exact) := by
    rw [value]
    exact locates_exact (by positivity) _
  obtain ⟨n, nearest, rounded⟩ := roundWithAccuracy_eq located (by omega)
  refine ⟨n, nearest, fun s => ?_⟩
  rw [← rounded s, UnpackedFloat.round, targetExponent_eq, decreaseExponent, hs]

/-- The division of significands is rounded to the place nearest to the exact quotient. -/
lemma divCore_eq {m₁ m₂ : Nat} (h₁ : m₁ ≠ 0) (h₂ : m₂ ≠ 0) (e₁ e₂ : Int) :
    ∃ n : Nat, Nearest ((m₁ : ℚ) / m₂ * 2 ^ (e₁ - e₂ + 1074)) n ∧
      ∀ s, roundWithAccuracy .binary64 s (divCore .binary64 m₁ e₁ m₂ e₂).1
        (divCore .binary64 m₁ e₁ m₂ e₂).2.1 (divCore .binary64 m₁ e₁ m₂ e₂).2.2 =
        unpackedAt s n := by
  have target : Format.binary64.targetExponent (totalExponent m₁ e₁ - totalExponent m₂ e₂) =
      max ((m₁.log2 : Int) + e₁ - (m₂.log2 + e₂) - 53) (-1074) := by
    show max ((m₁.log2 : Int) + 1 + e₁ - (m₂.log2 + 1 + e₂) - ((1 + 52 : Nat) : Int)) (-1074) = _
    congr 1
    omega
  obtain ⟨t, ht⟩ : ∃ t, min (e₁ - e₂)
      (max ((m₁.log2 : Int) + e₁ - (m₂.log2 + e₂) - 53) (-1074)) = t := ⟨_, rfl⟩
  obtain ⟨shift, hs⟩ : ∃ shift : Nat, e₁ - e₂ - t = shift := ⟨(e₁ - e₂ - t).toNat, by omega⟩
  have core : divCore .binary64 m₁ e₁ m₂ e₂ =
      ((m₁ <<< shift) / m₂, t, accuracyOfFraction ((m₁ <<< shift) % m₂) m₂) := by
    simp only [divCore, target, ht, hs, Int.toNat_natCast]
  have unit_pos : (0 : ℚ) < 2 ^ (t + 1074) := by positivity
  have located := locates_quotient unit_pos (m₁ <<< shift) (Nat.pos_of_ne_zero h₂)
  have value : ((m₁ <<< shift : Nat) : ℚ) / m₂ * 2 ^ (t + 1074) =
      (m₁ : ℚ) / m₂ * 2 ^ (e₁ - e₂ + 1074) := by
    have power : (2 : ℚ) ^ shift * 2 ^ (t + 1074) = 2 ^ (e₁ - e₂ + 1074) :=
      two_pow_mul_two_zpow (by omega)
    rw [Nat.shiftLeft_eq, ← power]
    push_cast
    ring
  rw [value] at located
  -- The quotient has at least 53 digits, unless it has the least exponent, so none has to be added.
  have enough : t ≤ max ((((m₁ <<< shift) / m₂).log2 : Int) + t - 52) (-1074) := by
    rcases Int.lt_or_le (-1074) t with above | least
    · have digits : 52 ≤ ((m₁ <<< shift) / m₂).log2 := le_log2_shiftLeft_div h₁ h₂ (by omega)
      omega
    · omega
  rw [core]
  exact roundWithAccuracy_eq located enough

end PolySurvey.Number
