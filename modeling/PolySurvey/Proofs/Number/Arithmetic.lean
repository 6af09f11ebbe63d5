import PolySurvey.Proofs.Number.Order
import PolySurvey.Proofs.Number.Rounding

/-!
# Arithmetic of doubles

Sums, differences and quotients of finite doubles are the places nearest to the exact results. Places
beyond the last finite one are infinite.
-/

namespace PolySurvey.Number

open Float.Model Float.Model.UnpackedFloat

/-! ## Packing a place -/

/-- The sign that was packed is unpacked. -/
lemma unpackSign_packComponents (s : Sign) (exponent : BitVec 11) (mantissa : BitVec 52) :
    unpackSign (packComponents .binary64 s exponent mantissa) = s.toBitVec := by
  show (s.toBitVec ++ exponent ++ mantissa).extractLsb' 63 1 = _
  rw [BitVec.extractLsb'_append_eq_of_le (by decide), BitVec.extractLsb'_append_eq_of_le (by decide)]
  cases s <;> rfl

/-- A sign is known from its bit. -/
lemma ofBitVec_toBitVec (s : Sign) : Sign.ofBitVec s.toBitVec = s := by
  cases s <;> rfl

/-- The biased exponent of a binade that is not the lowest. -/
lemma binade_sub_eq (n : Nat) :
    ((binade n : Int) - 1074 + Format.binary64.exponentBias + ((52 : Nat) : Int)).toNat =
      binade n + 1 := by
  show ((binade n : Int) - 1074 + ((2 ^ (11 - 1) - 1 : Nat) : Int) + ((52 : Nat) : Int)).toNat = _
  omega

/-- A significand has all its bits above the subnormal places. -/
lemma log2_significand_eq_iff {n : Nat} (h : significand n ≠ 0) :
    (significand n).log2 + 1 = Format.binary64.mantissaBits ↔ 2 ^ 52 ≤ n := by
  have normal : 2 ^ 52 ≤ significand n ↔ 2 ^ 52 ≤ n := by
    unfold significand binade
    omega
  have top := (Nat.log2_lt h).2 (significand_lt n)
  rw [← normal, ← Nat.le_log2 h]
  show (significand n).log2 + 1 = 1 + 52 ↔ _
  omega

/-- Below the infinite places, the bits of a double are its sign and its place. -/
lemma pack_unpackedAt {n : Nat} (s : Sign) (h : n < 2047 * 2 ^ 52) :
    UnpackedFloat.pack .binary64 (unpackedAt s n) =
      packComponents .binary64 s (BitVec.ofNat 11 (n / 2 ^ 52)) (BitVec.ofNat 52 n) := by
  unfold unpackedAt
  by_cases zero : significand n = 0
  · have hn : n = 0 := by
      unfold significand binade at zero
      omega
    rw [dif_pos zero, hn]
    rfl
  · rw [dif_neg zero, UnpackedFloat.pack]
    simp only [binade_sub_eq, log2_significand_eq_iff zero]
    have small : ¬ 2 ^ 11 ≤ binade n + 1 + 1 := by
      unfold binade
      omega
    rw [if_neg small]
    -- A normal significand loses its leading digit, which its exponent field stands for.
    by_cases normal : 2 ^ 52 ≤ n
    · have field : binade n + 1 = n / 2 ^ 52 := by
        unfold binade
        omega
      have mantissa : BitVec.ofNat 52 (significand n) = BitVec.ofNat 52 n := by
        apply BitVec.eq_of_toNat_eq
        simp only [BitVec.toNat_ofNat]
        unfold significand binade
        omega
      rw [if_pos normal, field, mantissa]
    · have field : n / 2 ^ 52 = 0 := by omega
      have mantissa : significand n = n := by
        unfold significand binade
        omega
      rw [if_neg normal, field, mantissa]

/-- From there on, the double is infinite. -/
lemma pack_unpackedAt_of_le {n : Nat} (s : Sign) (h : 2047 * 2 ^ 52 ≤ n) :
    UnpackedFloat.pack .binary64 (unpackedAt s n) = packedInfinity .binary64 s := by
  have pos : significand n ≠ 0 := by
    unfold significand binade
    omega
  have large : 2 ^ 11 ≤ binade n + 1 + 1 := by
    unfold binade
    omega
  rw [unpackedAt, dif_neg pos, UnpackedFloat.pack]
  simp only [binade_sub_eq]
  rw [if_pos large]

/-- Doubles of equal significands and exponents are equal. -/
lemma finite_congr {s : Sign} {m n : Nat} {e f : Int} {hm : 0 < m} {hn : 0 < n} (h : m = n)
    (h' : e = f) : UnpackedFloat.finite s m e hm = .finite s n f hn := by
  subst h h'
  rfl

/-- Numbers that differ in their low bits give different vectors of bits. -/
lemma ofNat_ne_ofNat {w m n : Nat} (h : m % 2 ^ w ≠ n % 2 ^ w) :
    BitVec.ofNat w m ≠ BitVec.ofNat w n := by
  intro eq
  have := congrArg BitVec.toNat eq
  rw [BitVec.toNat_ofNat, BitVec.toNat_ofNat] at this
  exact h this

/-- A sign and the bits of a place below infinity are unpacked to the double at that place. -/
lemma unpack_packComponents {n : Nat} (s : Sign) (h : n < 2047 * 2 ^ 52) :
    UnpackedFloat.unpack .binary64
      (packComponents .binary64 s (BitVec.ofNat 11 (n / 2 ^ 52)) (BitVec.ofNat 52 n)) =
      unpackedAt s n := by
  have field : (BitVec.ofNat 11 (n / 2 ^ 52)).toNat = n / 2 ^ 52 := by
    rw [BitVec.toNat_ofNat]
    omega
  have mantissa : (BitVec.ofNat 52 n).toNat = n % 2 ^ 52 := BitVec.toNat_ofNat ..
  have finite : BitVec.ofNat 11 (n / 2 ^ 52) ≠ -1#11 :=
    ofNat_ne_ofNat (n := 2047) (by omega)
  have bias : Format.binary64.exponentBias = 1023 := rfl
  simp only [UnpackedFloat.unpack, unpackMantissa_packComponents, unpackExponent_packComponents,
    unpackSign_packComponents, ofBitVec_toBitVec]
  rw [if_neg finite, unpackedAt]
  by_cases subnormal : n < 2 ^ 52
  · -- The exponent field is zero, and the significand is the place itself.
    have lowest : significand n = n ∧ binade n = 0 := by
      unfold significand binade
      omega
    rw [if_pos (by rw [Nat.div_eq_of_lt subnormal])]
    by_cases zero : n = 0
    · subst zero
      rfl
    · rw [dif_neg (ofNat_ne_ofNat (n := 0) (by omega)), dif_neg (by omega)]
      apply finite_congr
      · omega
      · rw [field, bias]
        omega
  · -- The exponent field counts the binade, and the leading digit is put back.
    have normal : significand n = 2 ^ 52 + n % 2 ^ 52 ∧ binade n + 1 = n / 2 ^ 52 := by
      unfold significand binade
      omega
    rw [if_neg (ofNat_ne_ofNat (n := 0) (by omega)), dif_neg (by omega)]
    apply finite_congr
    · rw [BitVec.toNat_append, ← Nat.shiftLeft_add_eq_or_of_lt (BitVec.ofNat 52 n).isLt, mantissa,
        normal.1]
      rfl
    · rw [field, bias]
      omega

/-! ## Unpacked doubles at places -/

/-- The rank of a place: beyond the last finite double stands infinity. -/
def clamp (r : Int) : Int :=
  if 2047 * 2 ^ 52 ≤ r then 2 ^ 63 else if r ≤ -(2047 * 2 ^ 52) then -2 ^ 63 else r

/-- A place between those of the infinities stays. -/
lemma clamp_of_finite {r : Int} (h : -(2047 * 2 ^ 52) < r) (h' : r < 2047 * 2 ^ 52) :
    clamp r = r := by
  rw [clamp, if_neg (by omega), if_neg (by omega)]

/-- From the place of infinity on, a place is clamped to that of infinity. -/
lemma clamp_of_le {r : Int} (h : 2047 * 2 ^ 52 ≤ r) : clamp r = 2 ^ 63 := if_pos h

/-- Below, a place is clamped to that of negative infinity. -/
lemma clamp_of_ge {r : Int} (h : r ≤ -(2047 * 2 ^ 52)) : clamp r = -2 ^ 63 := by
  rw [clamp, if_neg (by omega), if_pos h]

/-- A place whose rank is that of a finite double is not changed. -/
lemma clamp_eq_self {r : Int} (h : -(2047 * 2 ^ 52) < clamp r) (h' : clamp r < 2047 * 2 ^ 52) :
    clamp r = r := by
  apply clamp_of_finite
  · by_contra below
    rw [clamp_of_ge (by omega)] at h
    omega
  · by_contra above
    rw [clamp_of_le (by omega)] at h'
    omega

/-- A finite place that is not above another is not above it after clamping. -/
lemma le_clamp {r q : Int} (h : r ≤ q) (low : -(2047 * 2 ^ 52) < r) (high : r < 2047 * 2 ^ 52) :
    r ≤ clamp q := by
  rcases Int.lt_or_le q (2047 * 2 ^ 52) with finite | infinite
  · rw [clamp_of_finite (by omega) finite]
    exact h
  · rw [clamp_of_le infinite]
    omega

/-- Clamping keeps the order of places. -/
lemma clamp_mono : Monotone clamp := by
  intro r q le
  unfold clamp
  split_ifs <;> omega

/-- An unpacked double stands at a place of the order. -/
def StandsAt (a : UnpackedFloat) (r : Int) : Prop := ∃ s n, a = unpackedAt s n ∧ r = s.apply n

/-- The double that is unpacked at a place has this place, with its sign. -/
lemma rankUnpacked_unpackedAt (s : Sign) (n : Nat) : rankUnpacked (unpackedAt s n) = s.apply n := by
  have place := binade_mul_add_significand n
  unfold unpackedAt
  by_cases zero : significand n = 0
  · have hn : n = 0 := by
      unfold significand binade at zero
      omega
    rw [dif_pos zero, hn]
    cases s <;> rfl
  · rw [dif_neg zero]
    cases s <;> simp only [rankUnpacked, Sign.apply] <;> omega

/-- What is packed for a place is a number, and it has the rank of the place. -/
lemma StandsAt.rank_pack {a : UnpackedFloat} {r : Int} (h : StandsAt a r) :
    (Float.Model.pack a).unpack ≠ .notANumber ∧
      rankUnpacked (Float.Model.pack a).unpack = clamp r := by
  obtain ⟨s, n, rfl, rfl⟩ := h
  show UnpackedFloat.unpack .binary64 (UnpackedFloat.pack .binary64 (unpackedAt s n)) ≠ _ ∧
    rankUnpacked (UnpackedFloat.unpack .binary64 (UnpackedFloat.pack .binary64 (unpackedAt s n))) = _
  rcases Nat.lt_or_ge n (2047 * 2 ^ 52) with finite | infinite
  · rw [pack_unpackedAt s finite, unpack_packComponents s finite, rankUnpacked_unpackedAt]
    constructor
    · unfold unpackedAt
      split <;> exact UnpackedFloat.noConfusion
    · rw [clamp_of_finite] <;> cases s <;> simp only [Sign.apply] <;> omega
  · have unpacked : UnpackedFloat.unpack .binary64 (packedInfinity .binary64 s) = .infinity s := by
      cases s <;> rfl
    rw [pack_unpackedAt_of_le s infinite, unpacked]
    refine ⟨UnpackedFloat.noConfusion, ?_⟩
    cases s with
    | negative => exact (clamp_of_ge (by simp only [Sign.apply]; omega)).symm
    | positive => exact (clamp_of_le (by simp only [Sign.apply]; omega)).symm

/-- A canonical significand and exponent are those of a place. -/
lemma finite_eq_unpackedAt {s : Sign} {m : Nat} {e : Int} {hm : 0 < m} (h : Normalized m e) :
    UnpackedFloat.finite s m e hm = unpackedAt s ((e + 1074).toNat * 2 ^ 52 + m) := by
  have place : binade ((e + 1074).toNat * 2 ^ 52 + m) = (e + 1074).toNat :=
    binade_place h.1 (by have := h.2.2.2; omega)
  have digits : significand ((e + 1074).toNat * 2 ^ 52 + m) = m := by
    rw [significand, place, Nat.add_sub_cancel_left]
  have := h.2.1
  rw [unpackedAt, dif_neg (by omega)]
  apply finite_congr
  · rw [digits]
  · omega

/-- A finite double stands at its place. -/
lemma standsAt_of_isFinite {a : UnpackedFloat} (h : Canonical a) (finite : a.isFinite = true) :
    StandsAt a (rankUnpacked a) := by
  cases a with
  | notANumber => cases finite
  | infinity s => cases finite
  | zero s => exact ⟨s, 0, rfl, by cases s <;> rfl⟩
  | finite s m e hm =>
    rw [finite_eq_unpackedAt h]
    exact ⟨s, _, rfl, rankUnpacked_unpackedAt s _⟩

/-- Either zero stands at place zero. -/
lemma standsAt_zero (s : Sign) : StandsAt (.zero s) 0 := ⟨s, 0, rfl, by cases s <;> rfl⟩

/-- The value of either zero is zero. -/
lemma valueAt_rankUnpacked_zero (s : Sign) : valueAt (rankUnpacked (.zero s)) = 0 := rfl

/-- The value of a finite double, as its significand and exponent give it. -/
lemma valueAt_rankUnpacked {s : Sign} {m : Nat} {e : Int} {hm : 0 < m} (h : Normalized m e) :
    valueAt (rankUnpacked (.finite s m e hm)) = s.apply (m * 2 ^ (e + 1074).toNat : Nat) := by
  have value : magnitude ((e + 1074).toNat * 2 ^ 52 + m) = m * 2 ^ (e + 1074).toNat :=
    magnitude_place h.1 (by have := h.2.2.2; omega)
  rw [finite_eq_unpackedAt h, rankUnpacked_unpackedAt, ← value]
  cases s with
  | positive => rfl
  | negative => exact valueAt_neg _

/-! ## Sums and differences -/

/-- A signed significand is rounded to the place nearest to its value. -/
lemma standsAt_normalize (m : Int) {e : Int} (he : -1074 ≤ e) :
    ∃ r, Nearest ((m * 2 ^ (e + 1074).toNat : Int) : ℚ) r ∧
      StandsAt (UnpackedFloat.normalize .binary64 m e .positive) r := by
  unfold UnpackedFloat.normalize
  -- Rounding sees no sign: a negative significand is rounded as its opposite.
  cases order : compare m 0 with
  | lt =>
    obtain ⟨k, rfl⟩ : ∃ k : Nat, m = -k := ⟨(-m).toNat, by have := Int.compare_eq_lt.1 order; omega⟩
    have pos : k ≠ 0 := by
      have := Int.compare_eq_lt.1 order
      omega
    obtain ⟨n, nearest, rounded⟩ := round_eq pos he
    have value : ((-(k : Int) * 2 ^ (e + 1074).toNat : Int) : ℚ) =
        -((k * 2 ^ (e + 1074).toNat : Nat) : ℚ) := by
      push_cast
      ring
    rw [value, Int.neg_neg, Int.toNat_natCast]
    exact ⟨-n, nearest.neg, .negative, n, rounded _, rfl⟩
  | eq =>
    obtain rfl := Int.compare_eq_eq.1 order
    rw [Int.zero_mul]
    exact ⟨0, .valueAt_self 0, .positive, 0, rfl, rfl⟩
  | gt =>
    obtain ⟨k, rfl⟩ : ∃ k : Nat, m = k := ⟨m.toNat, by have := Int.compare_eq_gt.1 order; omega⟩
    have pos : k ≠ 0 := by
      have := Int.compare_eq_gt.1 order
      omega
    obtain ⟨n, nearest, rounded⟩ := round_eq pos he
    have value : (((k : Int) * 2 ^ (e + 1074).toNat : Int) : ℚ) =
        ((k * 2 ^ (e + 1074).toNat : Nat) : ℚ) := by
      push_cast
      rfl
    rw [value, Int.toNat_natCast]
    exact ⟨n, nearest, .positive, n, rounded _, rfl⟩

/-- Writing a significand with a smaller exponent does not change its value. -/
lemma value_shiftLeft (s : Sign) (m : Nat) {e f : Int} (hf : -1074 ≤ f) (h : f ≤ e) :
    s.apply (m <<< (e - f).toNat : Nat) * 2 ^ (f + 1074).toNat =
      s.apply (m * 2 ^ (e + 1074).toNat : Nat) := by
  have power : 2 ^ (e + 1074).toNat = 2 ^ (e - f).toNat * 2 ^ (f + 1074).toNat := by
    rw [← Nat.pow_add]
    congr 1
    omega
  rw [Nat.shiftLeft_eq, power]
  cases s <;> simp only [Sign.apply] <;> push_cast <;> ring

/-- A sum of finite doubles stands at the place nearest to the sum of their values. -/
lemma standsAt_add {a b : UnpackedFloat} (ha : Canonical a) (hb : Canonical b)
    (fa : a.isFinite = true) (fb : b.isFinite = true) :
    ∃ r, Nearest ((valueAt (rankUnpacked a) + valueAt (rankUnpacked b) : Int) : ℚ) r ∧
      StandsAt (UnpackedFloat.add .binary64 a b) r := by
  cases a with
  | notANumber => cases fa
  | infinity s => cases fa
  | zero s =>
    cases b with
    | notANumber => cases fb
    | infinity t => cases fb
    | zero t =>
      rw [valueAt_rankUnpacked_zero, valueAt_rankUnpacked_zero]
      refine ⟨0, .valueAt_self 0, ?_⟩
      cases s <;> cases t
      · exact standsAt_zero .negative
      · exact standsAt_zero .positive
      · exact standsAt_zero .positive
      · exact standsAt_zero .positive
    | finite t n f hn =>
      rw [valueAt_rankUnpacked_zero, Int.zero_add]
      exact ⟨_, .valueAt_self _, standsAt_of_isFinite hb fb⟩
  | finite s m e hm =>
    cases b with
    | notANumber => cases fb
    | infinity t => cases fb
    | zero t =>
      rw [valueAt_rankUnpacked_zero, Int.add_zero]
      exact ⟨_, .valueAt_self _, standsAt_of_isFinite ha fa⟩
    | finite t n f hn =>
      -- Both significands are written with the lesser exponent, where they can be added.
      have least : -1074 ≤ min e f := by
        have := ha.2.1
        have := hb.2.1
        omega
      obtain ⟨r, nearest, stands⟩ := standsAt_normalize
        (s.apply (m <<< (e - min e f).toNat : Nat) + t.apply (n <<< (f - min e f).toNat : Nat)) least
      rw [Int.add_mul, value_shiftLeft s m least (Int.min_le_left ..),
        value_shiftLeft t n least (Int.min_le_right ..)] at nearest
      rw [valueAt_rankUnpacked ha, valueAt_rankUnpacked hb]
      exact ⟨r, nearest, stands⟩

/-- The opposite sign gives the opposite number. -/
lemma apply_neg (s : Sign) (n : Int) : (-s).apply n = -s.apply n := by
  cases s with
  | negative => exact (Int.neg_neg n).symm
  | positive => rfl

/-- To subtract is to add the opposite. -/
lemma sub_eq_add_neg (a b : UnpackedFloat) :
    UnpackedFloat.sub .binary64 a b = UnpackedFloat.add .binary64 a b.neg := by
  cases a with
  | notANumber => rfl
  | infinity s => cases b <;> rfl
  | zero s => cases b <;> rfl
  | finite s m e hm =>
    cases b with
    | notANumber => rfl
    | infinity t => rfl
    | zero t => rfl
    | finite t n f hn =>
      simp only [UnpackedFloat.sub, UnpackedFloat.add, UnpackedFloat.neg, apply_neg, Int.sub_eq_add_neg]

/-- The opposite of a canonical double is canonical. -/
lemma canonical_neg {a : UnpackedFloat} (h : Canonical a) : Canonical a.neg := by
  cases a <;> exact h

/-- The opposite of a finite double is finite, and of no other. -/
lemma isFinite_neg (a : UnpackedFloat) : a.neg.isFinite = a.isFinite := by
  cases a <;> rfl

/-- The opposite of a double has the opposite place. -/
lemma rankUnpacked_neg (a : UnpackedFloat) : rankUnpacked a.neg = -rankUnpacked a := by
  cases a with
  | notANumber => rfl
  | infinity s => cases s <;> rfl
  | zero s => rfl
  | finite s m e hm =>
    cases s with
    | negative => exact (Int.neg_neg _).symm
    | positive => rfl

/-- The difference of finite doubles stands at a place nearest to the exact one. -/
lemma standsAt_sub {a b : UnpackedFloat} (ha : Canonical a) (hb : Canonical b)
    (fa : a.isFinite = true) (fb : b.isFinite = true) :
    ∃ r, Nearest ((valueAt (rankUnpacked a) - valueAt (rankUnpacked b) : Int) : ℚ) r ∧
      StandsAt (UnpackedFloat.sub .binary64 a b) r := by
  have := standsAt_add ha (canonical_neg hb) fa ((isFinite_neg b).trans fb)
  rwa [rankUnpacked_neg, valueAt_neg, ← Int.sub_eq_add_neg, ← sub_eq_add_neg] at this

/-! ## Quotients -/

/-- One, in multiples of the least positive double. -/
def unitsOfOne : ℚ := 2 ^ 1074

/-- One is a positive number of units. -/
lemma unitsOfOne_pos : 0 < unitsOfOne := pow_pos (by norm_num) _

/-- The exact quotient of two significands, in units. -/
lemma value_quotient (m n : Nat) {e f : Int} (he : -1074 ≤ e) (hf : -1074 ≤ f) :
    ((m * 2 ^ (e + 1074).toNat : Nat) : ℚ) / (n * 2 ^ (f + 1074).toNat : Nat) * unitsOfOne =
      (m : ℚ) / n * 2 ^ (e - f + 1074) := by
  have power {g : Int} (hg : -1074 ≤ g) : (2 : ℚ) ^ (g + 1074).toNat = 2 ^ g * unitsOfOne := by
    rw [unitsOfOne, ← zpow_natCast, ← zpow_natCast, ← zpow_add₀ (by norm_num)]
    congr 1
    omega
  have power' : (2 : ℚ) ^ (e - f + 1074) = 2 ^ e / 2 ^ f * unitsOfOne := by
    rw [unitsOfOne, ← zpow_sub₀ (by norm_num), ← zpow_natCast, ← zpow_add₀ (by norm_num)]
    rfl
  push_cast
  rw [power he, power hf, power', ← mul_assoc, ← mul_assoc, mul_div_mul_right _ _ unitsOfOne_pos.ne']
  ring

/-- A quotient of finite doubles stands at the place nearest to the quotient of their values. -/
lemma standsAt_div {a b : UnpackedFloat} (ha : Canonical a) (hb : Canonical b)
    (fa : a.isFinite = true) (fb : b.isFinite = true) (nonzero : rankUnpacked b ≠ 0) :
    ∃ r, Nearest ((valueAt (rankUnpacked a) : ℚ) / valueAt (rankUnpacked b) * unitsOfOne) r ∧
      StandsAt (UnpackedFloat.div .binary64 a b) r := by
  cases b with
  | notANumber => cases fb
  | infinity t => cases fb
  | zero t => exact absurd rfl nonzero
  | finite t n f hn =>
    cases a with
    | notANumber => cases fa
    | infinity s => cases fa
    | zero s =>
      rw [valueAt_rankUnpacked_zero, Int.cast_zero, zero_div, zero_mul]
      exact ⟨0, .valueAt_self 0, standsAt_zero _⟩
    | finite s m e hm =>
      obtain ⟨k, nearest, rounded⟩ := divCore_eq hm.ne' hn.ne' e f
      rw [← value_quotient m n ha.2.1 hb.2.1] at nearest
      have opposite := nearest.neg
      rw [valueAt_rankUnpacked ha, valueAt_rankUnpacked hb]
      refine ⟨(s / t).apply k, ?_, s / t, k, rounded _, rfl⟩
      -- Rounding is symmetric, so the quotient of the magnitudes decides for all four pairs of signs.
      cases s <;> cases t <;>
        simp only [Sign.apply, Int.cast_neg, Int.cast_natCast, neg_div, div_neg, neg_mul, neg_neg]
      · exact nearest
      · exact opposite
      · exact opposite
      · exact nearest

/-! ## Doubles -/

section

variable {x y : Float}

/-- A double that stands somewhere is a number, and its place is that one, clamped. -/
lemma rank_of_standsAt {z : Float} {a : UnpackedFloat} {r : Int} (h : StandsAt a r)
    (hz : z.toModel = .pack a) : IsNumber z ∧ rank z = clamp r := by
  unfold IsNumber rank
  rw [hz]
  exact h.rank_pack

/-- A sum is rounded to the place nearest to the sum of the values. -/
lemma rank_add (hx : x.isFinite = true) (hy : y.isFinite = true) :
    ∃ r, Nearest ((valueAt (rank x) + valueAt (rank y) : Int) : ℚ) r ∧ IsNumber (x + y) ∧
      rank (x + y) = clamp r := by
  obtain ⟨r, nearest, stands⟩ := standsAt_add (canonical_unpack _) (canonical_unpack _) hx hy
  exact ⟨r, nearest, rank_of_standsAt stands rfl⟩

/-- A difference of finite doubles is the place nearest to the exact one, clamped. -/
lemma rank_sub (hx : x.isFinite = true) (hy : y.isFinite = true) :
    ∃ r, Nearest ((valueAt (rank x) - valueAt (rank y) : Int) : ℚ) r ∧ IsNumber (x - y) ∧
      rank (x - y) = clamp r := by
  obtain ⟨r, nearest, stands⟩ := standsAt_sub (canonical_unpack _) (canonical_unpack _) hx hy
  exact ⟨r, nearest, rank_of_standsAt stands rfl⟩

/-- A quotient of finite doubles is the place nearest to the exact one, clamped. -/
lemma rank_div (hx : x.isFinite = true) (hy : y.isFinite = true) (nonzero : rank y ≠ 0) :
    ∃ r, Nearest ((valueAt (rank x) : ℚ) / valueAt (rank y) * unitsOfOne) r ∧ IsNumber (x / y) ∧
      rank (x / y) = clamp r := by
  obtain ⟨r, nearest, stands⟩ :=
    standsAt_div (canonical_unpack _) (canonical_unpack _) hx hy nonzero
  exact ⟨r, nearest, rank_of_standsAt stands rfl⟩

end

/-! ## Infinity -/

section

variable {x y : Float}

/-- An infinity that was packed is unpacked. -/
lemma unpack_pack_infinity (s : Sign) : (Float.Model.pack (.infinity s)).unpack = .infinity s := by
  cases s <;> rfl

/-- A number that is not finite is an infinity. -/
lemma exists_unpack_eq_infinity (number : IsNumber x) (h : ¬ x.isFinite = true) :
    ∃ s, x.toModel.unpack = .infinity s := by
  unfold IsNumber at number
  have infinite : ¬ x.toModel.unpack.isFinite = true := h
  cases hx : x.toModel.unpack with
  | notANumber => exact absurd hx number
  | infinity s => exact ⟨s, rfl⟩
  | zero s => exact absurd rfl (hx ▸ infinite)
  | finite s m e hm => exact absurd rfl (hx ▸ infinite)

/-- The finite doubles are those whose rank is the place of a finite one. -/
lemma isFinite_iff_rank (number : IsNumber x) :
    x.isFinite = true ↔ -(2047 * 2 ^ 52) < rank x ∧ rank x < 2047 * 2 ^ 52 := by
  constructor
  · intro finite
    have canonical : Canonical x.toModel.unpack := canonical_unpack _
    have finite : x.toModel.unpack.isFinite = true := finite
    unfold rank
    cases hx : x.toModel.unpack with
    | notANumber => exact absurd hx number
    | infinity s =>
      rw [hx] at finite
      cases finite
    | zero s =>
      simp only [rankUnpacked]
      omega
    | finite s m e hm =>
      rw [hx] at canonical
      -- The largest exponent and the most digits give the last place below infinity.
      obtain ⟨digits, least, greatest, _⟩ := canonical
      cases s <;> simp only [rankUnpacked] <;> omega
  · intro bounds
    by_contra infinite
    obtain ⟨s, hx⟩ := exists_unpack_eq_infinity number infinite
    unfold rank at bounds
    rw [hx] at bounds
    cases s <;> simp only [rankUnpacked] at bounds <;> omega

/-- An infinite dividend gives no finite quotient. -/
lemma isFinite_of_div (number : IsNumber x) (hy : y.isFinite = true)
    (h : (x / y).isFinite = true) : x.isFinite = true := by
  by_contra infinite
  obtain ⟨s, hx⟩ := exists_unpack_eq_infinity number infinite
  have hy : y.toModel.unpack.isFinite = true := hy
  have h : (Float.Model.pack (UnpackedFloat.div .binary64 x.toModel.unpack
    y.toModel.unpack)).unpack.isFinite = true := h
  rw [hx] at h
  cases hd : y.toModel.unpack with
  | notANumber =>
    rw [hd] at hy
    cases hy
  | infinity t =>
    rw [hd] at hy
    cases hy
  | zero t =>
    rw [hd, UnpackedFloat.div, unpack_pack_infinity] at h
    cases h
  | finite t m e hm =>
    rw [hd, UnpackedFloat.div, unpack_pack_infinity] at h
    cases h

/-- Adding a finite double to infinity changes nothing. -/
lemma rank_add_of_infinite (hx : x.toModel.unpack = .infinity .positive) (hy : y.isFinite = true) :
    (x + y).toModel.unpack = .infinity .positive := by
  have hy : y.toModel.unpack.isFinite = true := hy
  show (Float.Model.pack (UnpackedFloat.add .binary64 x.toModel.unpack y.toModel.unpack)).unpack = _
  rw [hx]
  cases hd : y.toModel.unpack with
  | notANumber =>
    rw [hd] at hy
    cases hy
  | infinity t =>
    rw [hd] at hy
    cases hy
  | zero t => rw [UnpackedFloat.add, unpack_pack_infinity] <;> nofun
  | finite t m e hm => rw [UnpackedFloat.add, unpack_pack_infinity] <;> nofun

end

end PolySurvey.Number
