import PolySurvey.Proofs.Number.Range
import PolySurvey.Proofs.Scan.Enclosure

/-!
# What bisection keeps

Bisection looks for a zero between two points where the values of a curve have opposite signs, and each
halving should leave two such points. The signs are read off products, so this fails where a product
is rounded to zero: such a halving takes the wrong half. It also fails at the start, where a product
that is rounded to zero hides that the signs are the same, and one that is rounded to infinity that they
are opposite. Nothing else is lost as long as the middles of the intervals are finite.
-/

namespace PolySurvey

open Number

/-- An interval that is halved. -/
structure Interval where
  left : Float
  right : Float

namespace Interval

/-- The middle of an interval. -/
def middle (i : Interval) : Float := 0.5 * (i.left + i.right)

/-- An interval in order that lies in a bracket. -/
structure Within (i : Interval) (b : Bracket) : Prop where
  left : b.left ≤ i.left
  order : i.left ≤ i.right
  right : i.right ≤ b.right

end Interval

/-- The whole interval of a bracket. -/
def Bracket.interval (b : Bracket) : Interval := ⟨b.left, b.right⟩

namespace Curve

/-- The half of an interval in which a product of values shows a change of sign. -/
def half (curve : Curve) (i : Interval) : Interval :=
  if curve.value i.left * curve.value i.middle < 0.0 then ⟨i.left, i.middle⟩
  else ⟨i.middle, i.right⟩

/-- The interval after a number of halvings. -/
def halvings (curve : Curve) (i : Interval) (k : Nat) : Interval := curve.half^[k] i

/-- The values at the ends have opposite signs. -/
def ChangesSign (curve : Curve) (i : Interval) : Prop :=
  OppositeSign (curve.value i.left) (curve.value i.right)

/-- The sign changes in the first half, but the product that should show it is rounded to zero. -/
def LosesSign (curve : Curve) (i : Interval) : Prop :=
  OppositeSign (curve.value i.left) (curve.value i.middle) ∧
    Vanishes (curve.value i.left) (curve.value i.middle)

/-- The middle is a zero, or the interval is small enough. -/
def Settles (curve : Curve) (tolerance : Float) (i : Interval) : Prop :=
  (curve.value i.middle == 0.0) = true ∨ 0.5 * (i.right - i.left) < tolerance

/-- Halving comes to an end after a number of times: then, and not before, the interval settles or the
limit is reached. -/
structure StopsAfter (curve : Curve) (limits : RefineLimits) (i : Interval) (k : Nat) : Prop where
  le : k ≤ limits.maxIterations
  before : ∀ j < k, ¬ curve.Settles limits.tolerance (curve.halvings i j)
  last : k = limits.maxIterations ∨ curve.Settles limits.tolerance (curve.halvings i k)

/-- Values at the ends from which bisection does not start. -/
def Rejects (y z : Float) : Prop := Overflows y z ∨ (SameSign y z ∧ ¬ Vanishes y z)

variable {curve : Curve} {b : Bracket} {limits : RefineLimits} {i : Interval} {k : Nat}

/-! ## Halving as a sequence of intervals -/

/-- Where the value changes its sign below the middle, the lower half is taken. -/
lemma half_of_lt (h : curve.value i.left * curve.value i.middle < 0.0) :
    curve.half i = ⟨i.left, i.middle⟩ := if_pos h

/-- Anywhere else it is the upper half. -/
lemma half_of_not_lt (h : ¬ curve.value i.left * curve.value i.middle < 0.0) :
    curve.half i = ⟨i.middle, i.right⟩ := if_neg h

/-- The half that is taken first counts as one. -/
lemma halvings_half (curve : Curve) (i : Interval) (k : Nat) :
    curve.halvings (curve.half i) k = curve.halvings i (k + 1) := rfl

/-- The half that is taken last counts as one. -/
lemma halvings_succ (curve : Curve) (i : Interval) (k : Nat) :
    curve.halvings i (k + 1) = curve.half (curve.halvings i k) :=
  Function.iterate_succ_apply' _ _ _

/-- Halving stops at the middle of an interval that settles. -/
lemma halve_of_settles {tolerance : Float} (n : Nat) (y : Float) (h : curve.Settles tolerance i) :
    curve.halve tolerance (n + 1) i.left i.right y = i.middle := by
  have stop : (curve.value i.middle == 0.0 || decide (0.5 * (i.right - i.left) < tolerance)) = true := by
    simpa [Settles] using h
  exact if_pos stop

/-- Halving goes on with a half of an interval that does not settle. -/
lemma halve_of_not_settles {tolerance : Float} (n : Nat) (h : ¬ curve.Settles tolerance i) :
    curve.halve tolerance (n + 1) i.left i.right (curve.value i.left) =
      curve.halve tolerance n (curve.half i).left (curve.half i).right
        (curve.value (curve.half i).left) := by
  have go : ¬ (curve.value i.middle == 0.0 ||
      decide (0.5 * (i.right - i.left) < tolerance)) = true := by
    simpa [Settles] using h
  refine (if_neg go).trans ?_
  by_cases lower : curve.value i.left * curve.value i.middle < 0.0
  · rw [half_of_lt lower]
    exact if_pos lower
  · rw [half_of_not_lt lower]
    exact if_neg lower

/-- Halving returns the middle of the interval at which it comes to an end. -/
lemma exists_stopsAfter (curve : Curve) (tolerance : Float) (n : Nat) (i : Interval) :
    ∃ k, curve.StopsAfter ⟨tolerance, n⟩ i k ∧
      curve.halve tolerance n i.left i.right (curve.value i.left) = (curve.halvings i k).middle := by
  induction n generalizing i with
  | zero => exact ⟨0, ⟨le_rfl, nofun, .inl rfl⟩, rfl⟩
  | succ n ih =>
    by_cases settles : curve.Settles tolerance i
    · exact ⟨0, ⟨Nat.zero_le _, nofun, .inr settles⟩, halve_of_settles n _ settles⟩
    · obtain ⟨k, ⟨le, before, last⟩, eq⟩ := ih (curve.half i)
      refine ⟨k + 1, ⟨Nat.succ_le_succ le, ?_, last.imp_left (congrArg (· + 1))⟩, ?_⟩
      · intro j hj
        cases j with
        | zero => exact settles
        | succ j => exact before j (Nat.lt_of_succ_lt_succ hj)
      · rw [halve_of_not_settles n settles, eq, halvings_half]

/-! ## Intervals in a bracket -/

section

variable (left : b.left.isFinite = true) (right : b.right.isFinite = true)

include left right

/-- An interval in a bracket has finite ends. -/
lemma isFinite_of_within (h : i.Within b) : i.left.isFinite = true ∧ i.right.isFinite = true :=
  ⟨isFinite_of_mem left right h.left (le_of_le_of_le h.order h.right),
    isFinite_of_mem left right (le_of_le_of_le h.left h.order) h.right⟩

/-- An interval in a bracket has its middle between its ends, if that is finite. -/
lemma middle_mem (h : i.Within b) (finite : i.middle.isFinite = true) :
    i.left ≤ i.middle ∧ i.middle ≤ i.right := by
  obtain ⟨left', right'⟩ := isFinite_of_within left right h
  exact half_add_mem_of_isFinite left' right' h.order (isFinite_of_half_mul finite)

/-- Halving stays in a bracket as long as the middle is finite. -/
lemma half_within (h : i.Within b) (finite : i.middle.isFinite = true) :
    (curve.half i).Within b := by
  obtain ⟨above, below⟩ := middle_mem left right h finite
  by_cases lower : curve.value i.left * curve.value i.middle < 0.0
  · rw [half_of_lt lower]
    exact ⟨h.left, above, le_of_le_of_le below h.right⟩
  · rw [half_of_not_lt lower]
    exact ⟨le_of_le_of_le h.left above, below, h.right⟩

/-- Halves lie within the bracket, as long as no middle overflows. -/
lemma halvings_within (h : i.Within b)
    (finite : ∀ j < k, (curve.halvings i j).middle.isFinite = true) :
    (curve.halvings i k).Within b := by
  induction k with
  | zero => exact h
  | succ k ih =>
    rw [halvings_succ]
    exact half_within left right (ih fun j hj => finite j (by omega)) (finite k (by omega))

end

/-- The middle is one of the ends of the next interval. -/
lemma isFinite_of_half (h : (curve.half i).middle.isFinite = true) : i.middle.isFinite = true := by
  obtain ⟨left, right⟩ := isFinite_of_add (isFinite_of_half_mul h)
  by_cases lower : curve.value i.left * curve.value i.middle < 0.0
  · rw [half_of_lt lower] at right
    exact right
  · rw [half_of_not_lt lower] at left
    exact left

/-- If the last middle is finite, so are those before it. -/
lemma isFinite_of_halvings (h : (curve.halvings i k).middle.isFinite = true) :
    ∀ j ≤ k, (curve.halvings i j).middle.isFinite = true := by
  induction k with
  | zero =>
    intro j hj
    obtain rfl := Nat.le_zero.1 hj
    exact h
  | succ k ih =>
    intro j hj
    rcases Nat.le_succ_iff.1 hj with before | rfl
    · rw [halvings_succ] at h
      exact ih (isFinite_of_half h) j before
    · exact h

/-- If the last middle is finite, all intervals lie in the bracket, with their middles between their
ends. -/
lemma halvings_mem (left : b.left.isFinite = true) (right : b.right.isFinite = true)
    (h : i.Within b) (finite : (curve.halvings i k).middle.isFinite = true) {j : Nat} (hj : j ≤ k) :
    (curve.halvings i j).Within b ∧
      (curve.halvings i j).left ≤ (curve.halvings i j).middle ∧
      (curve.halvings i j).middle ≤ (curve.halvings i j).right := by
  have middles := isFinite_of_halvings finite
  have within := halvings_within left right h fun l (hl : l < j) => middles l (by omega)
  exact ⟨within, middle_mem left right within (middles j hj)⟩

/-! ## Signs -/

/-- A halving keeps the change of sign just when it does not lose it. -/
lemma changesSign_half_iff (left : (curve.value i.left).isFinite = true)
    (middle : (curve.value i.middle).isFinite = true)
    (right : (curve.value i.right).isFinite = true) (nonzero : ¬ (curve.value i.middle == 0.0) = true)
    (h : curve.ChangesSign i) : curve.ChangesSign (curve.half i) ↔ ¬ curve.LosesSign i := by
  have hl := isNumber_of_isFinite left
  have hm := isNumber_of_isFinite middle
  have hr := isNumber_of_isFinite right
  have sign := mul_lt_zero_iff_oppositeSign left middle
  have nonzero' : ¬ (curve.value i.left == 0.0) = true := by
    rw [← exact_eq_zero_iff hl]
    intro zero
    have product := (oppositeSign_iff hl hr).1 h
    rw [zero, zero_mul] at product
    exact lt_irrefl _ product
  -- The middle has the sign of one end. Where it differs from the left one the product should be
  -- negative, and is unless it vanishes.
  rcases oppositeSign_or_sameSign hl hm nonzero' nonzero with opposite | same
  · by_cases vanishes : Vanishes (curve.value i.left) (curve.value i.middle)
    · -- The product says nothing of the change of sign in the first half, and the second is taken.
      rw [half_of_not_lt fun lt => (sign.1 lt).2 vanishes]
      exact iff_of_false ((h.sameSign hl hm hr opposite).not_oppositeSign hm hr)
        (not_not.2 ⟨opposite, vanishes⟩)
    · rw [half_of_lt (sign.2 ⟨opposite, vanishes⟩)]
      exact iff_of_true opposite fun loses => vanishes loses.2
  · have apart := same.not_oppositeSign hl hm
    rw [half_of_not_lt fun lt => apart (sign.1 lt).1]
    exact iff_of_true (h.of_sameSign hl hm hr same) fun loses => apart loses.1

/-- The values at the ends of every interval keep opposite signs just when no halving loses them. -/
lemma forall_changesSign_iff (h : curve.ChangesSign i)
    (keeps : ∀ j < k, curve.ChangesSign (curve.halvings i j) →
      (curve.ChangesSign (curve.halvings i (j + 1)) ↔ ¬ curve.LosesSign (curve.halvings i j))) :
    (∀ j ≤ k, curve.ChangesSign (curve.halvings i j)) ↔
      ∀ j < k, ¬ curve.LosesSign (curve.halvings i j) := by
  constructor
  · intro changes j hj
    exact (keeps j hj (changes j hj.le)).1 (changes (j + 1) hj)
  · intro kept j hj
    induction j with
    | zero => exact h
    | succ j ih => exact (keeps j hj (ih (by omega))).2 (kept j hj)

/-! ## Bisection of a bracket -/

/-- The whole of a bracket lies within it. -/
lemma interval_within (h : b.left < b.right) : b.interval.Within b :=
  ⟨le_self_of_le (le_of_less h), le_of_less h, ge_self_of_le (le_of_less h)⟩

/-- The test at the start of bisection. -/
lemma rejects_iff {y z : Float} (hy : y.isFinite = true) (hz : z.isFinite = true) :
    (decide (0.0 < y * z) || !(y * z).isFinite) = true ↔ Rejects y z := by
  rw [Bool.or_eq_true, decide_eq_true_eq, Bool.not_eq_true', ← Bool.not_eq_true,
    zero_lt_mul_iff_sameSign hy hz, isFinite_mul_iff hy hz, not_not, Rejects]
  exact or_comm

section

variable (nonzero : ¬ (curve.value b.left == 0.0) = true)
  (nonzero' : ¬ (curve.value b.right == 0.0) = true)
  (finite : (curve.value b.left).isFinite = true)
  (finite' : (curve.value b.right).isFinite = true)

include nonzero nonzero' finite finite'

/-- Where the values at the ends are rejected, the estimate is returned. -/
lemma bisect_of_rejects (h : Rejects (curve.value b.left) (curve.value b.right)) :
    curve.bisect b limits = b.estimate := by
  rw [bisect, if_neg nonzero, if_neg nonzero']
  exact if_pos ((rejects_iff finite finite').2 h)

/-- Where they are not, the bracket is halved. -/
lemma bisect_of_not_rejects (h : ¬ Rejects (curve.value b.left) (curve.value b.right)) :
    curve.bisect b limits = curve.halve limits.tolerance limits.maxIterations b.left b.right
      (curve.value b.left) := by
  rw [bisect, if_neg nonzero, if_neg nonzero']
  exact if_neg fun test => h ((rejects_iff finite finite').1 test)

end

/-- Bisection between finite values that are not zero. It keeps the estimate if the product of the values
at the ends is rounded to infinity, or if they have the same sign and their product is not rounded to zero.
Otherwise it returns the middle of the last of its intervals. That is in the bracket just when it is finite,
and then it lies between the ends of an interval in the bracket. If the values have opposite signs at
the start, they have opposite signs at the ends of every interval just when no halving loses them. -/
theorem bisect_changesSign (curve : Curve) (b : Bracket) (limits : RefineLimits)
    (left : b.left.isFinite = true) (right : b.right.isFinite = true) (order : b.left < b.right)
    (values : ∀ x, b.Encloses x → (curve.value x).isFinite = true)
    (nonzero : ¬ (curve.value b.left == 0.0) = true)
    (nonzero' : ¬ (curve.value b.right == 0.0) = true) :
    let y := curve.value b.left
    let z := curve.value b.right
    let x := curve.bisect b limits
    (Rejects y z → x = b.estimate) ∧
      (¬ Rejects y z → ∃ k, curve.StopsAfter limits b.interval k ∧
        x = (curve.halvings b.interval k).middle ∧ (b.Encloses x ↔ x.isFinite = true) ∧
        (x.isFinite = true →
          (curve.halvings b.interval k).Within b ∧
          (curve.halvings b.interval k).left ≤ x ∧ x ≤ (curve.halvings b.interval k).right ∧
          (OppositeSign y z → ((∀ j ≤ k, curve.ChangesSign (curve.halvings b.interval j)) ↔
            ∀ j < k, ¬ curve.LosesSign (curve.halvings b.interval j))))) := by
  intro y z x
  have start := interval_within order
  have finite : y.isFinite = true := values _ ⟨start.left, start.order⟩
  have finite' : z.isFinite = true := values _ ⟨start.order, start.right⟩
  refine ⟨fun rejects => bisect_of_rejects nonzero nonzero' finite finite' rejects, ?_⟩
  intro accepts
  -- The loop is the sequence of halvings, up to the first one at which it stops.
  obtain ⟨k, stops, eq⟩ :=
    exists_stopsAfter curve limits.tolerance limits.maxIterations b.interval
  have point : x = (curve.halvings b.interval k).middle :=
    (bisect_of_not_rejects nonzero nonzero' finite finite' accepts).trans eq
  refine ⟨k, stops, point, ⟨fun h => isFinite_of_mem left right h.1 h.2, ?_⟩, ?_⟩
  · intro hx
    rw [point] at hx ⊢
    obtain ⟨within, above, below⟩ := halvings_mem left right start hx le_rfl
    exact ⟨le_of_le_of_le within.left above, le_of_le_of_le below within.right⟩
  · intro hx
    rw [point] at hx
    obtain ⟨within, above, below⟩ := halvings_mem left right start hx le_rfl
    rw [← point] at above below
    refine ⟨within, above, below, fun opposite => forall_changesSign_iff opposite ?_⟩
    intro j hj changes
    obtain ⟨within, above, below⟩ := halvings_mem left right start hx hj.le
    -- A halving before the last has not met a zero, or it would have stopped there.
    have nonzero : ¬ (curve.value (curve.halvings b.interval j).middle == 0.0) = true :=
      fun zero => stops.before j hj (.inl zero)
    rw [halvings_succ]
    exact changesSign_half_iff
      (values _ ⟨within.left, le_of_le_of_le within.order within.right⟩)
      (values _ ⟨le_of_le_of_le within.left above, le_of_le_of_le below within.right⟩)
      (values _ ⟨le_of_le_of_le within.left within.order, within.right⟩) nonzero changes

/-- The zero of the identity, from both sides of it. -/
theorem bisect_changesSign_identity :
    let curve : Curve := { value := id }
    let b : Bracket := ⟨-1.0, 2.0, 0.5⟩
    let limits : RefineLimits := ⟨1e-10, 2⟩
    b.left.isFinite = true ∧ b.right.isFinite = true ∧ b.left < b.right ∧
      (∀ x, b.Encloses x → (curve.value x).isFinite = true) ∧
      ¬ (curve.value b.left == 0.0) = true ∧ ¬ (curve.value b.right == 0.0) = true ∧
      ¬ Rejects (curve.value b.left) (curve.value b.right) ∧
      b.Encloses (curve.bisect b limits) ∧ ∃ k, curve.StopsAfter limits b.interval k ∧
        ∀ j ≤ k, curve.ChangesSign (curve.halvings b.interval j) := by
  intro curve b limits
  have left : b.left.isFinite = true := by decide +kernel
  have right : b.right.isFinite = true := by decide +kernel
  have order : b.left < b.right := by decide +kernel
  have values : ∀ x, b.Encloses x → (curve.value x).isFinite = true :=
    fun x h => isFinite_of_mem left right h.1 h.2
  have nonzero : ¬ (curve.value b.left == 0.0) = true := by decide +kernel
  have nonzero' : ¬ (curve.value b.right == 0.0) = true := by decide +kernel
  have opposite : OppositeSign (curve.value b.left) (curve.value b.right) :=
    .inl ⟨by decide +kernel, by decide +kernel⟩
  have accepts : ¬ Rejects (curve.value b.left) (curve.value b.right) := by
    rintro (overflows | ⟨same, _⟩)
    · exact (isFinite_mul_iff left right).1 (by decide +kernel) overflows
    · exact same.not_oppositeSign (isNumber_of_isFinite left) (isNumber_of_isFinite right) opposite
  obtain ⟨k, stops, eq, encloses, keeps⟩ :=
    (bisect_changesSign curve b limits left right order values nonzero nonzero').2 accepts
  have finite : (curve.bisect b limits).isFinite = true := by decide +kernel
  refine ⟨left, right, order, values, nonzero, nonzero', accepts, encloses.2 finite, k, stops, ?_⟩
  refine ((keeps finite).2.2.2 opposite).2 ?_
  rintro j hj ⟨change, vanishes⟩
  have lt : j < 2 := hj.trans_le stops.le
  interval_cases j
  · exact ((mul_lt_zero_iff_oppositeSign left (by decide +kernel)).1 (by decide +kernel)).2 vanishes
  · rcases change with ⟨_, above⟩ | ⟨above, _⟩
    · exact absurd above (by decide +kernel)
    · exact absurd above (by decide +kernel)

/-- Values that are finite everywhere, between which bisection does not keep a change of sign: it does not
see that two tiny values have the same sign, it takes the wrong half between tiny values of opposite
sign, it keeps the estimate between huge values of opposite sign, and it leaves the bracket where the sum
of the ends is infinite. -/
theorem exists_bisect_without_changesSign :
    (let curve : Curve := { value := fun _ => 1e-200 }
      let b : Bracket := ⟨0.0, 1.0, 0.25⟩
      (∀ x, (curve.value x).isFinite = true) ∧ SameSign (curve.value b.left) (curve.value b.right) ∧
        curve.bisect b ⟨1e-10, 1⟩ ≠ b.estimate) ∧
    (let curve : Curve := { value := fun x => if x < 0.25 then -1e-200 else 1e-200 }
      let b : Bracket := ⟨0.0, 1.0, 0.5⟩
      (∀ x, (curve.value x).isFinite = true) ∧ curve.ChangesSign b.interval ∧
        curve.halve 1e-10 2 b.left b.right (curve.value b.left) =
          curve.halve 1e-10 1 0.5 1.0 (curve.value 0.5) ∧
        SameSign (curve.value 0.5) (curve.value 1.0) ∧ curve.bisect b ⟨1e-10, 2⟩ = 0.875) ∧
    (let curve : Curve := { value := fun x => if x < 0.5 then -1e200 else 1e200 }
      let b : Bracket := ⟨0.0, 1.0, 0.25⟩
      (∀ x, (curve.value x).isFinite = true) ∧ curve.ChangesSign b.interval ∧
        curve.bisect b ⟨1e-10, 2⟩ = b.estimate) ∧
    (let curve : Curve := { value := fun x => if x < 1.5e308 then -1.0 else 1.0 }
      let b : Bracket := ⟨1e308, 1.7e308, 1.2e308⟩
      (∀ x, (curve.value x).isFinite = true) ∧ curve.ChangesSign b.interval ∧
        b.right < curve.bisect b ⟨1e-10, 1⟩) := by
  refine ⟨⟨fun _ => show Float.isFinite 1e-200 = true by decide +kernel, ?_⟩, ⟨fun x => ?_, ?_⟩,
    ⟨fun x => ?_, ?_⟩, fun x => ?_, ?_⟩
  · exact ⟨.inr ⟨by decide +kernel, by decide +kernel⟩, by decide +kernel⟩
  · show Float.isFinite (if x < 0.25 then -1e-200 else 1e-200) = true
    split <;> decide +kernel
  · exact ⟨.inl ⟨by decide +kernel, by decide +kernel⟩, by decide +kernel,
      .inr ⟨by decide +kernel, by decide +kernel⟩, by decide +kernel⟩
  · show Float.isFinite (if x < 0.5 then -1e200 else 1e200) = true
    split <;> decide +kernel
  · exact ⟨.inl ⟨by decide +kernel, by decide +kernel⟩, by decide +kernel⟩
  · show Float.isFinite (if x < 1.5e308 then -1.0 else 1.0) = true
    split <;> decide +kernel
  · exact ⟨.inl ⟨by decide +kernel, by decide +kernel⟩, by decide +kernel⟩

end Curve

end PolySurvey
