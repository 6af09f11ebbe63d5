import PolySurvey.Number.Cast

/-!
# Reading numbers

Integers and doubles are read from whole texts: a sign may come first, no blank is allowed, and a
double is the one nearest to the written decimal. The main statements say that a run of digits reads
as its own value, with or without a sign.
-/

namespace PolySurvey.Number

/-- The number that a run of decimal digits denotes. -/
def natOfDigits (cs : List Char) : Nat :=
  cs.foldl (fun n c => 10 * n + (c.toNat - '0'.toNat)) 0

/-- A run of at least one digit. -/
def readNat? (cs : List Char) : Option Nat :=
  if !cs.isEmpty && cs.all Char.isDigit then some (natOfDigits cs) else none

/-- An optional sign and at least one digit. -/
def readInt? : List Char → Option Int
  | '-' :: cs => (readNat? cs).map fun n => -(n : Int)
  | '+' :: cs => (readNat? cs).map Int.ofNat
  | cs => (readNat? cs).map Int.ofNat

/-- An integer between two bounds. -/
def readIntWithin? (low high : Int) (cs : List Char) : Option Int :=
  (readInt? cs).filter fun n => low ≤ n && n ≤ high

/-- An integer of 32 bits. -/
def readInt32? : List Char → Option Int :=
  readIntWithin? (-2 ^ 31) (2 ^ 31 - 1)

/-- An integer of 64 bits. -/
def readInt64? : List Char → Option Int :=
  readIntWithin? (-2 ^ 63) (2 ^ 63 - 1)

/-- A natural number of 64 bits; a plus sign may come first, a minus sign may not. -/
def readCount? (cs : List Char) : Option Nat :=
  let digits := match cs with
    | '+' :: cs => cs
    | cs => cs
  (readNat? digits).filter fun n => n < 2 ^ 64

/-- The exponent part of a decimal: nothing, or `e` and an integer. -/
def readExponent? : List Char → Option Int
  | [] => some 0
  | 'e' :: cs => readInt? cs
  | 'E' :: cs => readInt? cs
  | _ => none

/-- The double nearest to `n * 10 ^ e`, where `n` has the given number of digits. Far outside the
range of the doubles the answer is known without the power of ten. -/
def scaleDecimal (n digits : Nat) (e : Int) : Float :=
  if n = 0 || e + digits < -400 then 0.0
  else if 400 < e then 1.0 / 0.0
  else OfScientific.ofScientific n (decide (e < 0)) e.natAbs

/-- The digits before and after an optional point, and what follows them. -/
def cutDecimal (cs : List Char) : List Char × List Char × List Char :=
  let whole := cs.takeWhile Char.isDigit
  match cs.dropWhile Char.isDigit with
  | '.' :: rest => (whole, rest.takeWhile Char.isDigit, rest.dropWhile Char.isDigit)
  | rest => (whole, [], rest)

/-- A number without sign: an infinity, NaN, or a decimal with at least one digit. -/
def readMagnitude? (cs : List Char) : Option Float :=
  let word := String.ofList (cs.map Char.toLower)
  if word = "inf" || word = "infinity" then some (1.0 / 0.0)
  else if word = "nan" then some (0.0 / 0.0)
  else
    let (whole, fraction, rest) := cutDecimal cs
    let digits := whole ++ fraction
    if digits.isEmpty then none
    else (readExponent? rest).map fun e =>
      scaleDecimal (natOfDigits digits) digits.length (e - fraction.length)

/-- A double: an optional sign and a number. -/
def readFloat? : List Char → Option Float
  | '-' :: cs => (readMagnitude? cs).map fun x => -x
  | '+' :: cs => readMagnitude? cs
  | cs => readMagnitude? cs

/-- A natural number is read from digits, of which there must be one. -/
theorem readNat?_eq_some_iff {cs : List Char} {n : Nat} :
    readNat? cs = some n ↔ cs ≠ [] ∧ (∀ c ∈ cs, c.isDigit = true) ∧ natOfDigits cs = n := by
  simp [readNat?, and_assoc]

/-- A minus sign changes the sign of the number after it. -/
theorem readInt?_minus (cs : List Char) :
    readInt? ('-' :: cs) = (readNat? cs).map fun n => -(n : Int) := rfl

/-- A plus sign is passed over. -/
theorem readInt?_plus (cs : List Char) : readInt? ('+' :: cs) = (readNat? cs).map Int.ofNat := rfl

/-- A text that starts with no sign is read as a natural number. -/
theorem readInt?_eq_readNat? {cs : List Char} (hm : cs.head? ≠ some '-') (hp : cs.head? ≠ some '+') :
    readInt? cs = (readNat? cs).map Int.ofNat := by
  unfold readInt?
  split
  · simp at hm
  · simp at hp
  · rfl

end PolySurvey.Number
