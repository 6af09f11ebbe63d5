import PolySurvey.Number.Fixed
import PolySurvey.Proofs.Number.Order
import PolySurvey.Proofs.Term.Literal

/-!
# Decimals of two places

A decimal of two places is an optional sign, digits, a point and two digits; the text of a finite
double is one. It is a literal without divisors, so it can always be read, and a plus sign before it
changes nothing.
-/

namespace PolySurvey

open Number

/-- The text of a decimal of two places. -/
inductive IsDecimal : List Char → Prop where
  | intro {sign whole : List Char} {a b : Char} :
    sign = [] ∨ sign = ['+'] ∨ sign = ['-'] →
    whole ≠ [] → (∀ c ∈ whole, c.isDigit = true) →
    a.isDigit = true → b.isDigit = true →
    IsDecimal (sign ++ (whole ++ ['.', a, b]))

/-! ## The text of a double -/

/-- Hundredths with a sign before them are a decimal of two places. -/
lemma isDecimal_writeHundredths {sign : List Char} (hs : sign = [] ∨ sign = ['+'] ∨ sign = ['-'])
    (n : Nat) : IsDecimal (sign ++ writeHundredths n) := by
  obtain ⟨whole, a, b, text, hne, hw, ha, hb⟩ := writeHundredths_eq n
  rw [text]
  exact .intro hs hne hw ha hb

/-- The text of a sign is empty, or a sign. -/
lemma signText_eq (s : Float.Model.UnpackedFloat.Sign) :
    signText s = [] ∨ signText s = ['+'] ∨ signText s = ['-'] := by
  cases s with
  | positive => exact .inl rfl
  | negative => exact .inr (.inr rfl)

/-- The text of a finite double is a decimal of two places. -/
lemma isDecimal_fixed {x : Float} (h : x.isFinite = true) : IsDecimal (fixed x) := by
  have finite : x.toModel.unpack.isFinite = true := h
  unfold fixed
  cases hx : x.toModel.unpack with
  | notANumber => simp [hx, Float.Model.UnpackedFloat.isFinite] at finite
  | infinity s => simp [hx, Float.Model.UnpackedFloat.isFinite] at finite
  | zero s => exact isDecimal_writeHundredths (signText_eq s) 0
  | finite s m e => exact isDecimal_writeHundredths (signText_eq s) _

/-- Hundredths do not begin with a sign. -/
lemma not_startsWithSign_writeHundredths (n : Nat) : ¬ StartsWithSign (writeHundredths n) := by
  obtain ⟨whole, a, b, text, hne, hw, _, _⟩ := writeHundredths_eq n
  obtain ⟨c, tail, hc, digit⟩ := exists_digit_cons hne hw ['.', a, b]
  rw [text, hc]
  exact not_startsWithSign_of_isDigit digit tail

/-- A positive double is written without a sign. -/
lemma fixed_of_rank_pos {x : Float} (h : x.isFinite = true) (pos : 0 < rank x) :
    ∃ n, fixed x = writeHundredths n := by
  obtain ⟨m, e, hm, hx⟩ := unpack_of_rank_pos h pos
  exact ⟨hundredths m e, by simp [fixed, hx, signText]⟩

/-- A negative double is written with a minus sign. -/
lemma fixed_of_rank_neg {x : Float} (h : x.isFinite = true) (neg : rank x < 0) :
    ∃ n, fixed x = '-' :: writeHundredths n := by
  obtain ⟨m, e, hm, hx⟩ := unpack_of_rank_neg h neg
  exact ⟨hundredths m e, by simp [fixed, hx, signText]⟩

/-! ## Reading a decimal -/

namespace IsDecimal

variable {cs : List Char}

/-- A decimal is a literal without divisors, behind its sign. -/
lemma exists_literal (h : IsDecimal cs) :
    ∃ (sign : LeadSign) (l : Literal), cs = sign.text ++ l.text := by
  cases h with
  | @intro sign whole a b hs hne hw ha hb =>
    have digits : ∀ c ∈ [a, b], c.isDigit = true := by simp [ha, hb]
    let l : Literal := ⟨⟨⟨whole, hne, hw⟩, some ⟨[a, b], List.cons_ne_nil _ _, digits⟩⟩, []⟩
    have text : l.text = whole ++ ['.', a, b] := List.append_nil _
    rw [← text]
    rcases hs with rfl | rfl | rfl
    · exact ⟨.absent, l, rfl⟩
    · exact ⟨.plus, l, rfl⟩
    · exact ⟨.minus, l, rfl⟩

/-- A decimal of two places can be read. -/
lemma exists_readFraction (h : IsDecimal cs) : ∃ x, readFraction cs = .ok x := by
  obtain ⟨sign, l, rfl⟩ := h.exists_literal
  exact ⟨_, l.readFraction_text sign⟩

/-- A plus sign before an unsigned decimal does not change what is read. -/
lemma readFraction_plus (h : IsDecimal cs) (unsigned : ¬ StartsWithSign cs) :
    readFraction ('+' :: cs) = readFraction cs := by
  obtain ⟨sign, l, rfl⟩ := h.exists_literal
  have absent : sign = .absent := by
    by_contra signed
    exact unsigned (LeadSign.startsWithSign_text signed _)
  subst absent
  exact (l.readFraction_text .plus).trans (l.readFraction_text .absent).symm

end IsDecimal

end PolySurvey
