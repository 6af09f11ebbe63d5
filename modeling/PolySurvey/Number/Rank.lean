import PolySurvey.Number.Cast

/-!
# The order of the doubles

Every double that is not NaN has a place in the order, counted from zero. The main statements say
that a smaller double has a smaller rank and that no rank leaves `-2 ^ 63 .. 2 ^ 63`; so a chain of
increasing doubles is finite, and the room left above a double is a measure for loops that climb.
-/

namespace PolySurvey.Number

open Float.Model

/-- The place of an unpacked double in the order; both zeros stand at `0`. -/
def rankUnpacked : UnpackedFloat → Int
  | .notANumber => 0
  | .zero _ => 0
  | .infinity .positive => 2 ^ 63
  | .infinity .negative => -2 ^ 63
  | .finite .positive m e _ => (e + 1074) * 2 ^ 52 + m
  | .finite .negative m e _ => -((e + 1074) * 2 ^ 52 + m)

/-- The place of a double in the order; both zeros stand at `0`, and so does NaN. -/
def rank (x : Float) : Int :=
  rankUnpacked x.toModel.unpack

/-- How many places there are at and above a double. -/
def roomAbove (x : Float) : Nat :=
  (2 ^ 63 - rank x).toNat

/-- A significand has at most 53 bits, exactly 53 above the least exponent, and its exponent is
between the bounds of the format. -/
abbrev Normalized (m : Nat) (e : Int) : Prop :=
  m < 2 ^ 53 ∧ -1074 ≤ e ∧ e ≤ 971 ∧ (-1074 < e → 2 ^ 52 ≤ m)

/-- What unpacking a double gives. -/
def Canonical : UnpackedFloat → Prop
  | .finite _ m e _ => Normalized m e
  | _ => True

/-- Both branches of a choice are canonical, so the choice is. -/
theorem canonical_ite {c : Prop} [Decidable c] {a b : UnpackedFloat} (ha : c → Canonical a)
    (hb : ¬ c → Canonical b) : Canonical (if c then a else b) := by
  by_cases h : c
  · rw [if_pos h]
    exact ha h
  · rw [if_neg h]
    exact hb h

/-- The same for a choice whose branches use the condition. -/
theorem canonical_dite {c : Prop} [Decidable c] {f : c → UnpackedFloat} {g : ¬ c → UnpackedFloat}
    (hf : ∀ h, Canonical (f h)) (hg : ∀ h, Canonical (g h)) : Canonical (dite c f g) := by
  by_cases h : c
  · rw [dif_pos h]
    exact hf h
  · rw [dif_neg h]
    exact hg h

/-- What 64 bits are unpacked to is canonical. -/
theorem canonical_unpack (b : BitVec 64) :
    Canonical (UnpackedFloat.unpack Format.binary64 b) := by
  have hm : ∀ v : BitVec 52, v.toNat < 2 ^ 52 := fun v => v.isLt
  have he : ∀ v : BitVec 11, v.toNat < 2 ^ 11 := fun v => v.isLt
  delta UnpackedFloat.unpack
  dsimp only
  refine canonical_ite (fun _ => canonical_ite (fun _ => trivial) fun _ => trivial) fun hmax => ?_
  have hmax' : (@UnpackedFloat.unpackExponent Format.binary64 b).toNat ≠ 2047 :=
    fun h => hmax (BitVec.eq_of_toNat_eq (by simpa using h))
  refine canonical_ite (fun hzero => canonical_dite (fun _ => trivial) fun _ => ?_) fun hzero => ?_
  · have := hm (@UnpackedFloat.unpackMantissa Format.binary64 b)
    show Normalized _ _
    rw [hzero]
    simp [Format.exponentBias]
    omega
  · have hzero' : (@UnpackedFloat.unpackExponent Format.binary64 b).toNat ≠ 0 :=
      fun h => hzero (BitVec.eq_of_toNat_eq (by simpa using h))
    have h1 := hm (@UnpackedFloat.unpackMantissa Format.binary64 b)
    have h2 := he (@UnpackedFloat.unpackExponent Format.binary64 b)
    show Normalized _ _
    simp only [Format.exponentBias, BitVec.toNat_append]
    rw [← Nat.shiftLeft_add_eq_or_of_lt h1]
    simp only [Nat.shiftLeft_eq, BitVec.toNat_ofNat]
    omega

/-- The distance from zero of a canonical significand and exponent in the order. -/
theorem place_bounds {m : Nat} {e : Int} (h : Normalized m e) (hm : 0 < m) :
    0 < (e + 1074) * 2 ^ 52 + m ∧ (e + 1074) * 2 ^ 52 + m < 2 ^ 63 := by
  omega

/-- Among canonical significands and exponents, the exponent decides first. -/
theorem place_lt {m n : Nat} {e f : Int} (hm : Normalized m e) (hn : Normalized n f)
    (h : (compare e f).then (compare m n) = .lt) :
    (e + 1074) * 2 ^ 52 + m < (f + 1074) * 2 ^ 52 + n := by
  rw [Ordering.then_eq_lt, Int.compare_eq_lt, Nat.compare_eq_lt, Int.compare_eq_eq] at h
  omega

/-- Two comparisons, one after the other, can be turned around together. -/
theorem then_swap {m n : Nat} {e f : Int} (h : ((compare e f).then (compare m n)).swap = .lt) :
    (compare f e).then (compare n m) = .lt := by
  rw [Ordering.swap_then, Int.compare_swap, Nat.compare_swap] at h
  exact h

/-- The place of a canonical double is within 63 bits on either side of zero. -/
theorem rankUnpacked_bounds {a : UnpackedFloat} (ha : Canonical a) :
    -2 ^ 63 ≤ rankUnpacked a ∧ rankUnpacked a ≤ 2 ^ 63 := by
  match a, ha with
  | .notANumber, _ => exact ⟨by decide, by decide⟩
  | .zero _, _ => exact ⟨show -2 ^ 63 ≤ (0 : Int) by decide, show (0 : Int) ≤ 2 ^ 63 by decide⟩
  | .infinity .positive, _ => exact ⟨by decide, by decide⟩
  | .infinity .negative, _ => exact ⟨by decide, by decide⟩
  | .finite .positive m e hm, ha =>
    have := place_bounds ha hm
    show -2 ^ 63 ≤ (e + 1074) * 2 ^ 52 + (m : Int) ∧ (e + 1074) * 2 ^ 52 + (m : Int) ≤ 2 ^ 63
    omega
  | .finite .negative m e hm, ha =>
    have := place_bounds ha hm
    show -2 ^ 63 ≤ -((e + 1074) * 2 ^ 52 + (m : Int)) ∧ -((e + 1074) * 2 ^ 52 + (m : Int)) ≤ 2 ^ 63
    omega

/-- Among canonical doubles, the lesser one has the lesser rank. -/
theorem rankUnpacked_lt {a b : UnpackedFloat} (ha : Canonical a) (hb : Canonical b)
    (h : a.compare b = some .lt) : rankUnpacked a < rankUnpacked b := by
  -- The comparison knows only some of the pairs as less; the others are closed by the hypothesis. What
  -- is left is decided by the signs and the bounds of the places, except between two doubles of one
  -- sign.
  match a, b, ha, hb with
  | .notANumber, _, _, _ => cases h
  | .infinity s, .notANumber, _, _ => cases s <;> cases h
  | .zero _, .notANumber, _, _ => cases h
  | .finite s _ _ _, .notANumber, _, _ => cases s <;> cases h
  | .infinity .positive, .infinity .positive, _, _ => cases h
  | .infinity .positive, .infinity .negative, _, _ => cases h
  | .infinity .positive, .zero _, _, _ => cases h
  | .infinity .positive, .finite _ _ _ _, _, _ => cases h
  | .infinity .negative, .infinity .negative, _, _ => cases h
  | .infinity .negative, .infinity .positive, _, _ => decide
  | .infinity .negative, .zero _, _, _ => exact show -2 ^ 63 < (0 : Int) by decide
  | .infinity .negative, .finite .positive m e hm, _, hb =>
    have := place_bounds hb hm
    show -2 ^ 63 < (e + 1074) * 2 ^ 52 + (m : Int)
    omega
  | .infinity .negative, .finite .negative m e hm, _, hb =>
    have := place_bounds hb hm
    show -2 ^ 63 < -((e + 1074) * 2 ^ 52 + (m : Int))
    omega
  | .zero _, .infinity .positive, _, _ => exact show (0 : Int) < 2 ^ 63 by decide
  | .zero _, .infinity .negative, _, _ => cases h
  | .zero _, .zero _, _, _ => cases h
  | .zero _, .finite .positive m e hm, _, hb =>
    have := place_bounds hb hm
    show 0 < (e + 1074) * 2 ^ 52 + (m : Int)
    omega
  | .zero _, .finite .negative _ _ _, _, _ => cases h
  | .finite .positive m e hm, .infinity .positive, ha, _ =>
    have := place_bounds ha hm
    show (e + 1074) * 2 ^ 52 + (m : Int) < 2 ^ 63
    omega
  | .finite .negative m e hm, .infinity .positive, ha, _ =>
    have := place_bounds ha hm
    show -((e + 1074) * 2 ^ 52 + (m : Int)) < 2 ^ 63
    omega
  | .finite _ _ _ _, .infinity .negative, _, _ => cases h
  | .finite .positive _ _ _, .zero _, _, _ => cases h
  | .finite .negative m e hm, .zero _, ha, _ =>
    have := place_bounds ha hm
    show -((e + 1074) * 2 ^ 52 + (m : Int)) < 0
    omega
  | .finite .positive m e hm, .finite .positive n f hn, ha, hb =>
    exact place_lt ha hb (Option.some.inj h)
  | .finite .positive _ _ _, .finite .negative _ _ _, _, _ => cases h
  | .finite .negative m e hm, .finite .positive n f hn, ha, hb =>
    have := place_bounds ha hm
    have := place_bounds hb hn
    show -((e + 1074) * 2 ^ 52 + (m : Int)) < (f + 1074) * 2 ^ 52 + (n : Int)
    omega
  | .finite .negative m e hm, .finite .negative n f hn, ha, hb =>
    have := place_lt hb ha (then_swap (Option.some.inj h))
    show -((e + 1074) * 2 ^ 52 + (m : Int)) < -((f + 1074) * 2 ^ 52 + (n : Int))
    omega

/-- The place of a double is within 63 bits on either side of zero. -/
theorem rank_bounds (x : Float) : -2 ^ 63 ≤ rank x ∧ rank x ≤ 2 ^ 63 :=
  rankUnpacked_bounds (canonical_unpack _)

/-- A smaller double has a lower place. -/
theorem rank_lt_of_lt {x y : Float} (h : x < y) : rank x < rank y := by
  have h' : decide (x.toModel < y.toModel) = true := h
  have h'' : (x.toModel.unpack.compare y.toModel.unpack == some .lt) = true := of_decide_eq_true h'
  exact rankUnpacked_lt (canonical_unpack _) (canonical_unpack _) (eq_of_beq h'')

/-- The higher of two doubles has less room above it. -/
theorem roomAbove_lt_of_lt {x y : Float} (h : x < y) : roomAbove y < roomAbove x := by
  have := rank_lt_of_lt h
  have := rank_bounds y
  simp only [roomAbove]
  omega

end PolySurvey.Number
