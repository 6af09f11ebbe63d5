import Mathlib
import PolySurvey.Number.Rank

/-!
# Comparing doubles

Two doubles that are numbers compare as their ranks do. So the comparisons that a program makes are
statements about integers, and what is known about integers carries over.
-/

namespace PolySurvey.Number

open Float.Model

/-- A double that is not NaN. -/
def IsNumber (x : Float) : Prop := x.toModel.unpack ≠ .notANumber

/-- A finite double is a number. -/
lemma isNumber_of_isFinite {x : Float} (h : x.isFinite = true) : IsNumber x := by
  intro nan
  have : x.toModel.unpack.isFinite = true := h
  rw [nan] at this
  cases this

/-! ## Unpacked doubles -/

/-- Among canonical significands and exponents, comparing places compares the exponents first. -/
lemma compare_then {m n : Nat} {e f : Int} (hm : Normalized m e) (hn : Normalized n f) :
    (compare e f).then (compare m n) =
      compare ((e + 1074) * 2 ^ 52 + m) ((f + 1074) * 2 ^ 52 + n) := by
  cases h : (compare e f).then (compare m n) with
  | lt => exact (Int.compare_eq_lt.2 (place_lt hm hn h)).symm
  | eq =>
    rw [Ordering.then_eq_eq, Int.compare_eq_eq, Nat.compare_eq_eq] at h
    rw [h.1, h.2, Int.compare_eq_eq.2 rfl]
  | gt => exact (Int.compare_eq_gt.2 (place_lt hn hm (then_swap (by rw [h]; rfl)))).symm

/-- Comparing negative doubles by their exponents and significands is comparing their places. -/
lemma swap_compare_then {m n : Nat} {e f : Int} (hm : Normalized m e) (hn : Normalized n f) :
    ((compare e f).then (compare m n)).swap =
      compare (-((e + 1074) * 2 ^ 52 + m)) (-((f + 1074) * 2 ^ 52 + n)) := by
  rw [compare_then hm hn, Int.compare_swap]
  cases h : compare ((f + 1074) * 2 ^ 52 + n) ((e + 1074) * 2 ^ 52 + m) with
  | lt => exact (Int.compare_eq_lt.2 (Int.neg_lt_neg (Int.compare_eq_lt.1 h))).symm
  | eq => exact (Int.compare_eq_eq.2 (congrArg (- ·) (Int.compare_eq_eq.1 h).symm)).symm
  | gt => exact (Int.compare_eq_gt.2 (Int.neg_lt_neg (Int.compare_eq_gt.1 h))).symm

/-- A positive double has a positive place. -/
lemma rankUnpacked_positive {m : Nat} {e : Int} {hm : 0 < m}
    (h : Canonical (.finite .positive m e hm)) :
    0 < rankUnpacked (.finite .positive m e hm) := (place_bounds h hm).1

/-- A negative double has a negative place. -/
lemma rankUnpacked_negative {m : Nat} {e : Int} {hm : 0 < m}
    (h : Canonical (.finite .negative m e hm)) :
    rankUnpacked (.finite .negative m e hm) < 0 := Int.neg_neg_of_pos (place_bounds h hm).1

/-- The places of finite doubles lie strictly between those of the infinities. -/
lemma rankUnpacked_finite {s : UnpackedFloat.Sign} {m : Nat} {e : Int} {hm : 0 < m}
    (h : Canonical (.finite s m e hm)) :
    -2 ^ 63 < rankUnpacked (.finite s m e hm) ∧ rankUnpacked (.finite s m e hm) < 2 ^ 63 := by
  have := place_bounds h hm
  cases s <;> simp only [rankUnpacked] <;> omega

/-- Unpacked doubles that are numbers compare as their ranks do. -/
lemma compare_eq_compare_rank {a b : UnpackedFloat} (ha : Canonical a) (hb : Canonical b)
    (na : a ≠ .notANumber) (nb : b ≠ .notANumber) :
    a.compare b = some (compare (rankUnpacked a) (rankUnpacked b)) := by
  have below {x y : Int} (h : x < y) : some Ordering.lt = some (compare x y) :=
    congrArg some (Int.compare_eq_lt.2 h).symm
  have above {x y : Int} (h : y < x) : some Ordering.gt = some (compare x y) :=
    congrArg some (Int.compare_eq_gt.2 h).symm
  -- Among the infinities and zeros the comparison evaluates; a finite double is compared by its sign,
  -- and by its exponent and significand with one of the same sign.
  match a, b, ha, hb, na, nb with
  | .notANumber, _, _, _, na, _ => exact absurd rfl na
  | _, .notANumber, _, _, _, nb => exact absurd rfl nb
  | .infinity s, .infinity t, _, _, _, _ => cases s <;> cases t <;> rfl
  | .infinity s, .zero _, _, _, _, _ => cases s <;> rfl
  | .zero _, .infinity s, _, _, _, _ => cases s <;> rfl
  | .zero _, .zero _, _, _, _, _ => rfl
  | .infinity .positive, .finite .., _, hb, _, _ => exact above (rankUnpacked_finite hb).2
  | .infinity .negative, .finite .., _, hb, _, _ => exact below (rankUnpacked_finite hb).1
  | .finite .., .infinity .positive, ha, _, _, _ => exact below (rankUnpacked_finite ha).2
  | .finite .., .infinity .negative, ha, _, _, _ => exact above (rankUnpacked_finite ha).1
  | .zero _, .finite .positive .., _, hb, _, _ => exact below (rankUnpacked_positive hb)
  | .zero _, .finite .negative .., _, hb, _, _ => exact above (rankUnpacked_negative hb)
  | .finite .positive .., .zero _, ha, _, _, _ => exact above (rankUnpacked_positive ha)
  | .finite .negative .., .zero _, ha, _, _, _ => exact below (rankUnpacked_negative ha)
  | .finite .positive .., .finite .negative .., ha, hb, _, _ =>
    exact above (Int.lt_trans (rankUnpacked_negative hb) (rankUnpacked_positive ha))
  | .finite .negative .., .finite .positive .., ha, hb, _, _ =>
    exact below (Int.lt_trans (rankUnpacked_negative ha) (rankUnpacked_positive hb))
  | .finite .positive .., .finite .positive .., ha, hb, _, _ =>
    exact congrArg some (compare_then ha hb)
  | .finite .negative .., .finite .negative .., ha, hb, _, _ =>
    exact congrArg some (swap_compare_then ha hb)

/-! ## Doubles -/

section

variable {x y : Float}

/-- Numbers compare as their places do. -/
lemma compare_unpack (hx : IsNumber x) (hy : IsNumber y) :
    x.toModel.unpack.compare y.toModel.unpack = some (compare (rank x) (rank y)) :=
  compare_eq_compare_rank (canonical_unpack _) (canonical_unpack _) hx hy

/-- A number is below another where its place is. -/
lemma lt_iff_rank_lt (hx : IsNumber x) (hy : IsNumber y) : x < y ↔ rank x < rank y := by
  show (decide ((x.toModel.unpack.compare y.toModel.unpack == some .lt) = true) = true) ↔ _
  rw [compare_unpack hx hy, decide_eq_true_iff, beq_iff_eq, Option.some_inj, Int.compare_eq_lt]

/-- A number is not above another where its place is not. -/
lemma le_iff_rank_le (hx : IsNumber x) (hy : IsNumber y) : x ≤ y ↔ rank x ≤ rank y := by
  show (decide ((x.toModel.unpack.compare y.toModel.unpack).any (·.isLE) = true) = true) ↔ _
  rw [compare_unpack hx hy, decide_eq_true_iff, Option.any_some, Int.isLE_compare]

/-- Numbers are equal where their places are; the zeros share one. -/
lemma beq_iff_rank_eq (hx : IsNumber x) (hy : IsNumber y) :
    (x == y) = true ↔ rank x = rank y := by
  show (x.toModel.unpack.compare y.toModel.unpack == some .eq) = true ↔ _
  rw [compare_unpack hx hy, beq_iff_eq, Option.some_inj, Int.compare_eq_eq]

end

/-! ## Signs -/

/-- A finite double above zero has a significand and the positive sign. -/
lemma unpack_of_rank_pos {x : Float} (h : x.isFinite = true) (pos : 0 < rank x) :
    ∃ m e hm, x.toModel.unpack = .finite .positive m e hm := by
  have finite : x.toModel.unpack.isFinite = true := h
  have canonical : Canonical x.toModel.unpack := canonical_unpack _
  unfold rank at pos
  cases hx : x.toModel.unpack with
  | notANumber => simp [hx, UnpackedFloat.isFinite] at finite
  | infinity s => simp [hx, UnpackedFloat.isFinite] at finite
  | zero s => simp [hx, rankUnpacked] at pos
  | finite s m e hm =>
    rw [hx] at pos canonical
    cases s with
    | positive => exact ⟨m, e, hm, rfl⟩
    | negative => exact absurd (rankUnpacked_negative canonical) (Int.not_lt.2 (Int.le_of_lt pos))

/-- A finite double below zero has a significand and the negative sign. -/
lemma unpack_of_rank_neg {x : Float} (h : x.isFinite = true) (neg : rank x < 0) :
    ∃ m e hm, x.toModel.unpack = .finite .negative m e hm := by
  have finite : x.toModel.unpack.isFinite = true := h
  have canonical : Canonical x.toModel.unpack := canonical_unpack _
  unfold rank at neg
  cases hx : x.toModel.unpack with
  | notANumber => simp [hx, UnpackedFloat.isFinite] at finite
  | infinity s => simp [hx, UnpackedFloat.isFinite] at finite
  | zero s => simp [hx, rankUnpacked] at neg
  | finite s m e hm =>
    rw [hx] at neg canonical
    cases s with
    | positive => exact absurd (rankUnpacked_positive canonical) (Int.not_lt.2 (Int.le_of_lt neg))
    | negative => exact ⟨m, e, hm, rfl⟩

/-! ## Comparing with zero -/

/-- Zero is a number. -/
lemma isNumber_zero : IsNumber 0.0 := nofun

/-- A number is positive where its place is. -/
lemma zero_lt_iff_rank_pos {x : Float} (hx : IsNumber x) : 0.0 < x ↔ 0 < rank x :=
  lt_iff_rank_lt isNumber_zero hx

/-- A number is zero where its place is. -/
lemma beq_zero_iff_rank_eq_zero {x : Float} (hx : IsNumber x) : (x == 0.0) = true ↔ rank x = 0 :=
  beq_iff_rank_eq hx isNumber_zero

end PolySurvey.Number
