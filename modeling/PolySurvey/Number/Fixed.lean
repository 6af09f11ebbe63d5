/-!
# Two decimal places

A double is written with two places after the point. Its exact binary value is rounded once, and a
half goes to the even neighbour, so the sign is kept where the digits are all zero. The main
statements say that rounding moves a quotient by at most one half, and that the text of a finite
double is an optional minus sign, at least one digit, a point and two digits.
-/

namespace PolySurvey.Number

open Float.Model

/-- The integer nearest to a quotient, where a half goes to the even neighbour. -/
def roundQuotient (num den : Nat) : Nat :=
  if 2 * (num % den) < den ∨ 2 * (num % den) = den ∧ num / den % 2 = 0 then
    num / den
  else
    num / den + 1

/-- The number of hundredths nearest to `m * 2 ^ e`. -/
def hundredths (m : Nat) (e : Int) : Nat :=
  roundQuotient ((m * 100) <<< e.toNat) (1 <<< (-e).toNat)

/-- A number of hundredths, written with two places. -/
def writeHundredths (n : Nat) : List Char :=
  Nat.toDigits 10 (n / 100) ++ ['.', Nat.digitChar (n / 10 % 10), Nat.digitChar (n % 10)]

/-- The minus sign of a negative number, nothing for a positive one. -/
def signText : UnpackedFloat.Sign → List Char
  | .negative => ['-']
  | .positive => []

/-- The text of a double with two decimal places. -/
def fixed (x : Float) : List Char :=
  match x.toModel.unpack with
  | .notANumber => ['N', 'a', 'N']
  | .infinity s => signText s ++ ['i', 'n', 'f']
  | .zero s => signText s ++ writeHundredths 0
  | .finite s m e _ => signText s ++ writeHundredths (hundredths m e)

/-- Rounding moves a quotient by at most one half. -/
theorem roundQuotient_near {num den : Nat} (h : 0 < den) :
    2 * num ≤ den * (2 * roundQuotient num den + 1) ∧
      den * (2 * roundQuotient num den) ≤ 2 * num + den := by
  have hd := Nat.div_add_mod num den
  have hm := Nat.mod_lt num h
  simp only [roundQuotient]
  split <;> simp only [Nat.mul_add, Nat.mul_left_comm den 2] <;> omega

/-- The text of a number of hundredths is digits, a point and two digits. -/
theorem writeHundredths_eq (n : Nat) :
    ∃ whole : List Char, ∃ a b : Char, writeHundredths n = whole ++ ['.', a, b] ∧ whole ≠ [] ∧
      (∀ c ∈ whole, c.isDigit = true) ∧ a.isDigit = true ∧ b.isDigit = true :=
  ⟨Nat.toDigits 10 (n / 100), _, _, rfl, Nat.toDigits_ne_nil,
    fun _ hc => Nat.isDigit_of_mem_toDigits (by decide) (by decide) hc,
    by rw [Nat.isDigit_digitChar]; simp; omega, by rw [Nat.isDigit_digitChar]; simp; omega⟩

end PolySurvey.Number
