/-!
# Coefficient vectors

A polynomial is given by its coefficients in ascending order of the exponent. Values, slopes and
derivatives are computed here over any type with the operations they need: the doubles, whose results
depend on the order of the operations, and rings, in which that order does not matter. The main
statement says that the value found together with the slope is the value found alone.
-/

namespace PolySurvey.Coefficients

universe u

variable {R : Type u}

/-- Horner's rule on coefficients from the highest exponent down. -/
@[specialize]
def horner [Add R] [Mul R] [OfNat R 0] (descending : List R) (x : R) : R :=
  descending.foldl (fun value c => value * x + c) 0

/-- Horner's rule for the value and the slope at once. -/
@[specialize]
def hornerSlope [Add R] [Mul R] [OfNat R 0] (descending : List R) (x : R) : R × R :=
  descending.foldl (fun (value, slope) c => (value * x + c, slope * x + value)) (0, 0)

/-- The value of a polynomial at a point. -/
def value [Add R] [Mul R] [OfNat R 0] (cs : List R) (x : R) : R :=
  horner cs.reverse x

/-- The value and the slope of a polynomial at a point. -/
def valueAndSlope [Add R] [Mul R] [OfNat R 0] (cs : List R) (x : R) : R × R :=
  hornerSlope cs.reverse x

/-- The coefficient above a place, multiplied by its exponent, is written to that place. -/
@[specialize]
def shift [Mul R] [OfNat R 0] [NatCast R] (cs : Array R) (i : Nat) : Array R :=
  cs.setIfInBounds i (((i + 1 : Nat) : R) * cs.getD (i + 1) 0)

/-- The coefficients of the derivative: each is multiplied by its exponent and moves down by one
place, in ascending order and in the vector itself; the top place stays and becomes zero. -/
@[specialize]
def derivative [Mul R] [OfNat R 0] [NatCast R] (cs : List R) : List R :=
  let top := cs.length - 1
  (((List.range top).foldl shift cs.toArray).setIfInBounds top 0).toList

/-- The coefficients without the zeros at the highest exponents. -/
def significant [BEq R] [OfNat R 0] (cs : List R) : List R :=
  (cs.reverse.dropWhile (· == 0)).reverse

/-- The largest exponent with a coefficient that is not zero, and zero if there is none. -/
def degree [BEq R] [OfNat R 0] (cs : List R) : Nat :=
  (significant cs).length - 1

/-- Whether every coefficient is zero. -/
def isZero [BEq R] [OfNat R 0] (cs : List R) : Bool :=
  cs.all (· == 0)

/-- The slope does not disturb the value: the first of the two results is that of Horner's rule
alone. -/
theorem hornerSlope_fst [Add R] [Mul R] [OfNat R 0] (descending : List R) (x : R) :
    (hornerSlope descending x).1 = horner descending x := by
  suffices h : ∀ (cs : List R) (p : R × R),
      (cs.foldl (fun (value, slope) c => (value * x + c, slope * x + value)) p).1 =
        cs.foldl (fun value c => value * x + c) p.1 from h descending (0, 0)
  intro cs
  induction cs with
  | nil => intro p; rfl
  | cons c cs ih => intro p; exact ih _

section

variable [Mul R] [OfNat R 0] [NatCast R]

/-- The shift keeps the number of places. -/
@[simp] theorem size_shift (cs : Array R) (i : Nat) : (shift cs i).size = cs.size :=
  Array.size_setIfInBounds

/-- Any number of steps of the shift keeps the number of places. -/
theorem size_foldl_shift (cs : Array R) (n : Nat) :
    ((List.range n).foldl shift cs).size = cs.size := by
  induction n with
  | zero => rfl
  | succ n ih => rw [List.range_succ, List.foldl_append, List.foldl_cons, List.foldl_nil, size_shift, ih]

/-- After some steps of the shift, the places that it has passed hold the coefficients from above them,
and all others what they held before: what a step reads has not been written to yet. -/
theorem getElem?_foldl_shift (cs : Array R) {n : Nat} (inside : n < cs.size) (j : Nat) :
    ((List.range n).foldl shift cs)[j]? =
      if j < n then some (((j + 1 : Nat) : R) * cs.getD (j + 1) 0) else cs[j]? := by
  induction n generalizing j with
  | zero => rfl
  | succ n ih =>
    have before := ih (Nat.lt_of_succ_lt inside)
    -- The steps so far have written only to places below the one that is read now.
    have read : ((List.range n).foldl shift cs).getD (n + 1) 0 = cs.getD (n + 1) 0 := by
      rw [Array.getD_eq_getD_getElem?, Array.getD_eq_getD_getElem?, before, if_neg (by omega)]
    rw [List.range_succ, List.foldl_append, List.foldl_cons, List.foldl_nil, shift, read]
    rcases Nat.lt_trichotomy j n with below | rfl | above
    · rw [Array.getElem?_setIfInBounds_ne (by omega), before, if_pos below, if_pos (by omega)]
    · rw [Array.getElem?_setIfInBounds_self_of_lt (by rw [size_foldl_shift]; omega),
        if_pos (Nat.lt_succ_self j)]
    · rw [Array.getElem?_setIfInBounds_ne (by omega), before, if_neg (by omega), if_neg (by omega)]

/-- The derivative has as many places as the polynomial. -/
theorem length_derivative (cs : List R) : (derivative cs).length = cs.length := by
  simp only [derivative, Array.length_toList, Array.size_setIfInBounds, size_foldl_shift,
    List.size_toArray]

/-- The derivative in one piece: the coefficients above the constant, each counted by its exponent,
and a zero. -/
theorem derivative_cons (c : R) (cs : List R) :
    derivative (c :: cs) = cs.mapIdx (fun i c => ((i + 1 : Nat) : R) * c) ++ [0] := by
  have inside : cs.length < (c :: cs).toArray.size := Nat.lt_succ_self cs.length
  have shifted := getElem?_foldl_shift (c :: cs).toArray inside
  apply List.ext_getElem?
  intro j
  rw [derivative, Array.getElem?_toList, List.length_cons, Nat.add_sub_cancel]
  -- The place is below the top, the top itself, or beyond the vector.
  rcases Nat.lt_trichotomy j cs.length with below | rfl | above
  · rw [Array.getElem?_setIfInBounds_ne (Nat.ne_of_gt below), shifted, if_pos below,
      List.getElem?_append_left (by rwa [List.length_mapIdx]), List.getElem?_mapIdx]
    simp [below]
  · rw [Array.getElem?_setIfInBounds_self_of_lt (by rwa [size_foldl_shift]),
      List.getElem?_append_right (Nat.le_of_eq List.length_mapIdx), List.length_mapIdx, Nat.sub_self]
    rfl
  · rw [Array.getElem?_setIfInBounds_ne (Nat.ne_of_lt above), shifted, if_neg (by omega),
      List.getElem?_eq_none (by rw [List.length_append, List.length_mapIdx]; exact above)]
    exact Array.getElem?_eq_none above

end

end PolySurvey.Coefficients
