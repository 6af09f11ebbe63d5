import PolySurvey.Number.Cast
import PolySurvey.Number.Fixed

/-!
# Shortest decimal text

A double is written with the fewest significant digits that still denote it and no other double; of
two such texts the nearer one is taken, and of two equally near ones the greater. The notation is
positional whatever the size, and an integer has no point.

The reals that round to the double `m * 2 ^ e` form an interval around it, whose ends belong to it
when `m` is even. A decimal grid is tried after the other, from the coarse to the fine; on each only
the two neighbours of the value can lie in the interval.
-/

namespace PolySurvey.Number

open Float.Model

/-- The reals that round to one double, in units of `2 ^ unit`. -/
structure RoundingInterval where
  low : Nat
  value : Nat
  high : Nat
  unit : Int
  /-- Whether the ends belong to the interval. -/
  closed : Bool

/-- The interval of `m * 2 ^ e`. Below a power of two the doubles are twice as dense, unless the
exponent is the least one. -/
def RoundingInterval.of (m : Nat) (e : Int) : RoundingInterval where
  low := 4 * m - (if m = 2 ^ 52 ∧ -1074 < e then 1 else 2)
  value := 4 * m
  high := 4 * m + 2
  unit := e - 2
  closed := m % 2 = 0

/-- The decimal number `digits * 10 ^ exponent`. -/
structure Decimal where
  digits : Nat
  /-- The power of ten of the last digit. -/
  exponent : Int
deriving DecidableEq, Repr

namespace RoundingInterval

/-- The numbers `n * 2 ^ unit` and `c * 10 ^ k` over a common denominator. -/
def scaled (i : RoundingInterval) (n c : Nat) (k : Int) : Nat × Nat :=
  ((n <<< i.unit.toNat) * Nat.pow 10 (-k).toNat, (c * Nat.pow 10 k.toNat) <<< (-i.unit).toNat)

/-- Whether `c * 10 ^ k` lies in the interval. -/
def holds (i : RoundingInterval) (c : Nat) (k : Int) : Bool :=
  let low := i.scaled i.low c k
  let high := i.scaled i.high c k
  if i.closed then low.1 ≤ low.2 && high.2 ≤ high.1 else low.1 < low.2 && high.2 < high.1

/-- The point of the grid `10 ^ k` that lies in the interval, if there is one: the nearer of the
value's two neighbours, or the upper one of two equally near. -/
def onGrid? (i : RoundingInterval) (k : Int) : Option Decimal :=
  let (value, step) := i.scaled i.value 1 k
  let below := value / step
  match i.holds below k, i.holds (below + 1) k with
  | true, true => some ⟨if 2 * (value % step) < step then below else below + 1, k⟩
  | true, false => some ⟨below, k⟩
  | false, true => some ⟨below + 1, k⟩
  | false, false => none

/-- A power of ten above the value: one more than the number of digits before the point, counted
after a shift that leaves every double at least one digit. -/
def magnitude (i : RoundingInterval) : Int :=
  let (shifted, unit) := i.scaled i.value 1 (-400)
  (Nat.toDigits 10 (shifted / unit)).length - 400

/-- The shortest decimal in the interval. Seventeen digits tell any two doubles apart. -/
def shortest (i : RoundingInterval) : Decimal :=
  ((List.range 19).findSome? fun (n : Nat) => i.onGrid? (i.magnitude - n)).getD ⟨0, 0⟩

end RoundingInterval

/-- The positional text of a decimal number. -/
def Decimal.positional (d : Decimal) : List Char :=
  let digits := Nat.toDigits 10 d.digits
  if 0 ≤ d.exponent then
    digits ++ List.replicate d.exponent.toNat '0'
  else
    let places := (-d.exponent).toNat
    let padded := List.replicate (places + 1 - digits.length) '0' ++ digits
    padded.take (padded.length - places) ++ '.' :: padded.drop (padded.length - places)

/-- The shortest positional text that denotes a double. -/
def plain (x : Float) : List Char :=
  match x.toModel.unpack with
  | .notANumber => ['N', 'a', 'N']
  | .infinity s => signText s ++ ['i', 'n', 'f']
  | .zero s => signText s ++ ['0']
  | .finite s m e _ => signText s ++ (RoundingInterval.of m e).shortest.positional

end PolySurvey.Number
