import PolySurvey.Proofs.Scan.Check

/-!
# The walk through a domain

The walk through a checked domain never goes down. It stands still only where the step is half of the
gap above an even abscissa. Since the step moves both ends, two gaps tell whether there is such an
abscissa: the one above the end, and the one above the first abscissa after the start.
-/

namespace PolySurvey.Domain

open Number

variable {d : Domain} {n : Nat}

/-- The place of an abscissa. -/
def place (d : Domain) (n : Nat) : Int := rank (d.cursor n)

/-- The step does not move an abscissa. -/
def StillAt (d : Domain) (n : Nat) : Prop :=
  Nearest ((valueAt (d.place n) + d.stepUnits : Int) : ℚ) (d.place n)

/-- The signs of a stall: the first abscissa after the start does not pass the end, and the step is
half of the gap above the end or above that abscissa. -/
def Stalls (d : Domain) : Prop :=
  d.start + d.step ≤ d.stop ∧
    (2 * d.stepUnits = gapAt (rank d.stop) ∨ 2 * d.stepUnits = gapAt (rank (d.start + d.step)))

/-- Each abscissa is a rounded step after the one before. -/
lemma cursor_succ (d : Domain) (n : Nat) : d.cursor (n + 1) = d.cursor n + d.step := rfl

/-- The walk starts at the start. -/
lemma place_zero (d : Domain) : d.place 0 = rank d.start := rfl

/-- The first step leads from the start. -/
lemma cursor_one (d : Domain) : d.cursor 1 = d.start + d.step := rfl

namespace Checked

variable (h : d.Checked)

include h

/-! ## One step -/

/-- An abscissa between the ends of a checked domain is finite. -/
lemma isFinite_of_place_le (number : IsNumber (d.cursor n)) (low : rank d.start ≤ d.place n)
    (hn : d.place n ≤ rank d.stop) : (d.cursor n).isFinite = true := by
  have start := (isFinite_iff_rank (isNumber_of_isFinite h.start_finite)).1 h.start_finite
  have stop := (isFinite_iff_rank (isNumber_of_isFinite h.stop_finite)).1 h.stop_finite
  rw [isFinite_iff_rank number]
  exact ⟨lt_of_lt_of_le start.1 low, lt_of_le_of_lt hn stop.2⟩

/-- A step from a finite abscissa leads to the nearest place, and not down. -/
lemma place_succ_of_isFinite (finite : (d.cursor n).isFinite = true) :
    IsNumber (d.cursor (n + 1)) ∧ ∃ r, d.place n ≤ r ∧ d.place (n + 1) = clamp r ∧
      Nearest ((valueAt (d.place n) + d.stepUnits : Int) : ℚ) r := by
  obtain ⟨r, nearest, number, eq⟩ := rank_add finite h.step_finite
  exact ⟨number, r, nearest.le_of_step h.step_pos, eq, nearest⟩

/-- A step leads from a number to a number, and not down. -/
lemma place_le_place_succ (number : IsNumber (d.cursor n)) (low : rank d.start ≤ d.place n) :
    IsNumber (d.cursor (n + 1)) ∧ d.place n ≤ d.place (n + 1) := by
  have start := (isFinite_iff_rank (isNumber_of_isFinite h.start_finite)).1 h.start_finite
  by_cases finite : (d.cursor n).isFinite = true
  · obtain ⟨number', r, le, eq, _⟩ := h.place_succ_of_isFinite finite
    rw [eq]
    exact ⟨number', le_clamp le (lt_of_lt_of_le start.1 low) ((isFinite_iff_rank number).1 finite).2⟩
  · -- The start is finite, so only positive infinity can have been reached from it.
    obtain ⟨s, infinite⟩ := exists_unpack_eq_infinity number finite
    cases s with
    | negative =>
      unfold place rank at low
      rw [infinite] at low
      have bottom : rankUnpacked (.infinity .negative) = -2 ^ 63 := rfl
      have : -(2047 * 2 ^ 52) < rankUnpacked d.start.toModel.unpack := start.1
      omega
    | positive =>
      have stays := rank_add_of_infinite infinite h.step_finite
      rw [← cursor_succ] at stays
      constructor
      · unfold IsNumber
        rw [stays]
        nofun
      · unfold place rank
        rw [stays, infinite]

/-! ## The whole walk -/

/-- Every abscissa is a number, and none is below the start. -/
lemma reached (n : Nat) : IsNumber (d.cursor n) ∧ rank d.start ≤ d.place n := by
  induction n with
  | zero => exact ⟨isNumber_of_isFinite h.start_finite, le_refl _⟩
  | succ n ih =>
    obtain ⟨number, le⟩ := h.place_le_place_succ ih.1 ih.2
    exact ⟨number, ih.2.trans le⟩

/-- The walk never goes down. -/
lemma place_mono : Monotone d.place :=
  monotone_nat_of_le_succ fun n => (h.place_le_place_succ (h.reached n).1 (h.reached n).2).2

/-- An abscissa that is not beyond the end is finite. -/
lemma isFinite_cursor (hn : d.place n ≤ rank d.stop) : (d.cursor n).isFinite = true :=
  h.isFinite_of_place_le (h.reached n).1 (h.reached n).2 hn

/-- An abscissa is not beyond the end where its place is not. -/
lemma cursor_le_stop_iff : d.cursor n ≤ d.stop ↔ d.place n ≤ rank d.stop :=
  le_iff_rank_le (h.reached n).1 (isNumber_of_isFinite h.stop_finite)

/-- An abscissa that does not pass the end is followed by a greater one unless the step does not move
it. -/
lemma cursor_lt_succ_iff (hn : d.place n ≤ rank d.stop) :
    d.cursor n < d.cursor (n + 1) ↔ ¬ d.StillAt n :=
  lt_add_iff (h.isFinite_cursor hn) h.step_finite h.step_pos

/-- Where the next abscissa does not pass the end either, it stands at the nearest place. -/
lemma nearest_succ (hn : d.place (n + 1) ≤ rank d.stop) :
    Nearest ((valueAt (d.place n) + d.stepUnits : Int) : ℚ) (d.place (n + 1)) := by
  have here := (h.place_mono (Nat.le_succ n)).trans hn
  obtain ⟨number, r, _, eq, nearest⟩ := h.place_succ_of_isFinite (h.isFinite_cursor here)
  obtain ⟨low, high⟩ := (isFinite_iff_rank number).1 (h.isFinite_cursor hn)
  rw [← place, eq] at low high
  rw [eq, clamp_eq_self low high]
  exact nearest

/-- A nearest place that does not pass the end is the next one. -/
lemma place_succ_eq {r : Int} (hn : d.place n ≤ rank d.stop) (hr : r ≤ rank d.stop)
    (nearest : Nearest ((valueAt (d.place n) + d.stepUnits : Int) : ℚ) r) :
    d.place (n + 1) = r := by
  obtain ⟨_, q, le, eq, nearest'⟩ := h.place_succ_of_isFinite (h.isFinite_cursor hn)
  obtain rfl := nearest.unique nearest'
  have low := ((isFinite_iff_rank (h.reached n).1).1 (h.isFinite_cursor hn)).1
  have high := ((isFinite_iff_rank (isNumber_of_isFinite h.stop_finite)).1 h.stop_finite).2
  rw [eq]
  exact clamp_of_finite (lt_of_lt_of_le low le) (lt_of_le_of_lt hr high)

/-- A walk that stands still stays where it is. -/
lemma place_of_stillAt (hn : d.place n ≤ rank d.stop) (still : d.StillAt n) (m : Nat) :
    d.place (n + m) = d.place n := by
  induction m with
  | zero => rfl
  | succ m ih =>
    unfold StillAt at still
    rw [← ih] at still hn
    rw [← ih]
    exact h.place_succ_eq hn hn still

/-! ## Where the walk stalls -/

/-- The start is not beyond the end. -/
lemma place_zero_le : d.place 0 ≤ rank d.stop := h.start_le

/-- The walk moves at the start, as the check has seen. -/
lemma not_stillAt_zero : ¬ d.StillAt 0 := by
  unfold StillAt
  rw [place_zero]
  exact h.start_moves

/-- So the gap above the start is at most two steps wide. -/
lemma gapAt_place_zero_le : gapAt (d.place 0) ≤ 2 * d.stepUnits := by
  by_contra small
  exact h.not_stillAt_zero ((Nearest.add_step_self_iff h.step_pos).2 ⟨by omega, by omega⟩)

/-- So is the gap above the end. -/
lemma gapAt_stop_le : gapAt (rank d.stop) ≤ 2 * d.stepUnits := by
  by_contra small
  exact h.stop_moves ((Nearest.add_step_self_iff h.step_pos).2 ⟨by omega, by omega⟩)

/-- The walk moves on where it does not stand still. -/
lemma place_lt_succ_iff (hn : d.place n ≤ rank d.stop) :
    d.place n < d.place (n + 1) ↔ ¬ d.StillAt n := by
  rw [← h.cursor_lt_succ_iff hn, lt_iff_rank_lt (h.reached n).1 (h.reached (n + 1)).1]
  rfl

/-- The first step moves. -/
lemma place_zero_lt_place_one : d.place 0 < d.place 1 :=
  (h.place_lt_succ_iff h.place_zero_le).2 h.not_stillAt_zero

/-- The walk stands still only where one of the two places to look for it says so. -/
lemma stalls_of_stillAt (hn : d.place n ≤ rank d.stop) (still : d.StillAt n) : d.Stalls := by
  obtain ⟨small, _⟩ := (Nearest.add_step_self_iff h.step_pos).1 still
  have first := h.gapAt_place_zero_le
  have last := h.gapAt_stop_le
  have later : 1 ≤ n := by
    rcases Nat.eq_zero_or_pos n with rfl | pos
    · exact absurd still h.not_stillAt_zero
    · exact pos
  have up := h.place_mono later
  unfold Stalls
  rw [← cursor_one]
  refine ⟨h.cursor_le_stop_iff.2 (up.trans hn), ?_⟩
  rw [← place]
  rcases gapAt_le_or (h.place_mono (Nat.zero_le n)) hn with ⟨le, neg⟩ | ⟨le, _⟩
  · -- The gap is that above the start, and gaps shrink on the way up to zero.
    have above := gapAt_le_of_neg neg up
    have below := gapAt_le_of_neg (up.trans_lt neg) h.place_zero_lt_place_one.le
    exact .inr (by omega)
  · exact .inl (by omega)

/-! ## Where the signs of a stall lead to one -/

/-- After the first step the walk stands still if the step is half of the gap there. -/
lemma stillAt_one (hn : d.place 1 ≤ rank d.stop) (half : 2 * d.stepUnits = gapAt (d.place 1)) :
    d.StillAt 1 := by
  obtain ⟨_, even⟩ := (h.nearest_succ hn).eq_succ_and_even h.place_zero_lt_place_one half
  exact (Nearest.add_step_self_iff h.step_pos).2 ⟨half.le, fun _ => even⟩

/-- Where the step leads from each place to the next one, so does the walk. -/
lemma place_eq_add {q : Int} (hq : q ≤ rank d.stop)
    (next : ∀ r, d.place 0 ≤ r → r < q → Nearest ((valueAt r + d.stepUnits : Int) : ℚ) (r + 1))
    (n : Nat) (hn : d.place 0 + n ≤ q) : d.place n = d.place 0 + n := by
  induction n with
  | zero => exact (Int.add_zero _).symm
  | succ n ih =>
    push_cast at hn ⊢
    have here := ih (by omega)
    rw [← Int.add_assoc, ← here]
    exact h.place_succ_eq (by omega) (by omega) (next _ (by omega) (by omega))

/-- If the step is half of the gap above the end, the walk stands still where the binade of the end
begins, or at the first abscissa after the start. -/
lemma exists_stillAt_of_half (hn : d.place 1 ≤ rank d.stop)
    (half : 2 * d.stepUnits = gapAt (rank d.stop)) :
    ∃ n, d.place n ≤ rank d.stop ∧ d.StillAt n := by
  have first := h.gapAt_place_zero_le
  have moved := h.place_zero_lt_place_one
  rcases Int.lt_or_le (rank d.stop) 0 with neg | nonneg
  · have above := gapAt_le_of_neg neg hn
    have below := gapAt_le_of_neg (hn.trans_lt neg) moved.le
    exact ⟨1, hn, h.stillAt_one hn (by omega)⟩
  · obtain ⟨q, nonneg', le, even, gap, value, value', gaps⟩ := exists_binade_start nonneg half.symm
    have binade := valueAt_strictMono.monotone le
    -- The interval is short, so it begins in the binade below if not in that of the end.
    have low : q - 2 ^ 52 < d.place 0 := by
      rw [place_zero]
      apply valueAt_strictMono.lt_iff_lt.1
      have pos := h.step_pos
      have short := h.short
      omega
    rcases Int.lt_or_le (d.place 1) q with inside | beyond
    · have next : ∀ r, d.place 0 ≤ r → r < q →
          Nearest ((valueAt r + d.stepUnits : Int) : ℚ) (r + 1) := by
        intro r hr hr'
        have here := gaps r (low.le.trans hr) hr'
        have next := gapAt_pos (r + 1)
        have pos := h.step_pos
        exact Nearest.succ_of_step (by omega) (by omega)
      have reach := h.place_eq_add le next (q - d.place 0).toNat (by omega)
      have here : d.place (q - d.place 0).toNat = q := by omega
      refine ⟨(q - d.place 0).toNat, here.trans_le le, ?_⟩
      unfold StillAt
      rw [here]
      exact (Nearest.add_step_self_iff h.step_pos).2 ⟨gap.ge, fun _ => even⟩
    · have above := gapAt_le_of_nonneg nonneg' beyond
      have below := gapAt_le_of_nonneg (nonneg'.trans beyond) hn
      exact ⟨1, hn, h.stillAt_one hn (by omega)⟩

/-- A walk that shows the signs of a stall stands still at some point. -/
lemma exists_stillAt_of_stalls (stalls : d.Stalls) : ∃ n, d.place n ≤ rank d.stop ∧ d.StillAt n := by
  obtain ⟨hn, half⟩ := stalls
  rw [← cursor_one, h.cursor_le_stop_iff] at hn
  rw [← cursor_one, ← place] at half
  rcases half with half | half
  · exact h.exists_stillAt_of_half hn half
  · exact ⟨1, hn, h.stillAt_one hn half⟩

end Checked

end PolySurvey.Domain
