import PolySurvey.Proofs.Number.Whole

/-!
# Operands that change nothing

A double added to negative zero, and a double divided by one, is given back bit for bit: the sign of a
zero is kept, and so are the infinities and NaN.
-/

namespace PolySurvey.Number

open Float.Model Float.Model.UnpackedFloat

/-- What unpacking a double gives is packed as that double again. -/
lemma ofModel_pack_unpack (x : Float) : Float.ofModel (pack x.toModel.unpack) = x := by
  apply Float.toBits_inj.1
  apply UInt64.toBitVec_inj.1
  exact pack_unpack_of_valid x.toModel.valid

/-- Negative zero plus any double is that double, bit for bit. -/
lemma negZero_add (x : Float) : -0.0 + x = x := by
  have sum : UnpackedFloat.add .binary64 (.zero .negative) x.toModel.unpack = x.toModel.unpack := by
    cases x.toModel.unpack with
    | zero s => cases s <;> rfl
    | _ => rfl
  show Float.ofModel (pack (UnpackedFloat.add .binary64 (.zero .negative) x.toModel.unpack)) = x
  rw [sum, ofModel_pack_unpack]

/-- Only at zero do two unpacked doubles stand at one place. -/
lemma StandsAt.unique {a b : UnpackedFloat} {r : Int} (ha : StandsAt a r) (hb : StandsAt b r)
    (nonzero : r ≠ 0) : a = b := by
  obtain ⟨s, m, rfl, rfl⟩ := ha
  obtain ⟨t, n, rfl, eq⟩ := hb
  cases s <;> cases t <;> simp only [Sign.apply] at eq nonzero
  · obtain rfl : m = n := by omega
    rfl
  · omega
  · omega
  · obtain rfl : m = n := by omega
    rfl

/-- A double divided by one is that double, bit for bit. -/
lemma divide_one (x : Float) : x / 1.0 = x := by
  have quotient : UnpackedFloat.div .binary64 x.toModel.unpack (1.0 : Float).toModel.unpack =
      x.toModel.unpack := by
    have canonical : Canonical x.toModel.unpack := canonical_unpack _
    have canonical' : Canonical (1.0 : Float).toModel.unpack := canonical_unpack _
    have one : (valueAt (rankUnpacked (1.0 : Float).toModel.unpack) : ℚ) = unitsOfOne :=
      valueAt_rank_one
    have nonzero : rankUnpacked (1.0 : Float).toModel.unpack ≠ 0 := by decide
    generalize x.toModel.unpack = a at canonical ⊢
    cases a with
    | notANumber => rfl
    | infinity s => cases s <;> rfl
    | zero s => cases s <;> rfl
    | finite s m e hm =>
      -- The exact quotient is the value of the dividend, and the place nearest to that is its own.
      obtain ⟨r, nearest, stands⟩ := standsAt_div canonical canonical' rfl rfl nonzero
      rw [one, div_mul_cancel₀ _ unitsOfOne_pos.ne'] at nearest
      obtain rfl := nearest.unique (.valueAt_self _)
      refine stands.unique (standsAt_of_isFinite canonical rfl) ?_
      cases s with
      | positive => exact (rankUnpacked_positive canonical).ne'
      | negative => exact (rankUnpacked_negative canonical).ne
  show Float.ofModel (pack (UnpackedFloat.div .binary64 x.toModel.unpack
    (1.0 : Float).toModel.unpack)) = x
  rw [quotient, ofModel_pack_unpack]

end PolySurvey.Number
