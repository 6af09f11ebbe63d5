import PolySurvey.Proofs.Scan.Walk

/-!
# When a scan ends

The check of a domain asks the step to move the cursor at both ends. Between them it can still be lost
to rounding, and then the repeated addition never passes the end. This happens just when the domain
shows the signs of a stall. Every other checked domain is walked through to its end, in ascending
order. Roundings may make its steps shorter than the check counts them, by a third at most but for one
step, so there can be half as many abscissas again.
-/

namespace PolySurvey.Domain

open Number

variable {d : Domain} {n : Nat}

/-- Every abscissa that does not pass the end is followed by a greater one. -/
def Ascends (d : Domain) : Prop := ∀ n, d.cursor n ≤ d.stop → d.cursor n < d.cursor (n + 1)

/-! ## The samples of a walk that ends -/

/-- The walk visits the abscissas one after another, until the first that passes the end. -/
lemma climb_cursor (ascends : d.Ascends) {m : Nat} (past : ¬ d.cursor (n + m) ≤ d.stop)
    (before : ∀ k < n + m, d.cursor k ≤ d.stop) :
    climb d.stop d.step (d.cursor n) = (List.range' n m).map d.cursor := by
  induction m generalizing n with
  | zero => exact climb_of_not_le past
  | succ m ih =>
    have here := before n (by omega)
    rw [Nat.add_comm m 1, ← Nat.add_assoc] at past before
    rw [climb_of_lt here (ascends n here), ← cursor_succ, ih past before, List.range'_succ,
      List.map_cons]

/-- The samples are the abscissas before the first that passes the end. -/
lemma samples_eq (valid : d.isValid = true) (ascends : d.Ascends) (past : ¬ d.cursor n ≤ d.stop)
    (before : ∀ k < n, d.cursor k ≤ d.stop) : d.samples = (List.range n).map d.cursor := by
  rw [samples, if_pos valid, List.range_eq_range']
  rw [← Nat.zero_add n] at past before
  exact climb_cursor ascends past before

/-- The way from the start is two thirds of what the steps should add up to. It can be a third of one
step less, where the gaps have become as large as the step. -/
def Progress (d : Domain) (n : Nat) : Prop :=
  2 * (n * d.stepUnits) ≤ 3 * (valueAt (d.place n) - valueAt (d.place 0)) ∨
    0 ≤ d.place n ∧ d.stepUnits ≤ gapAt (d.place n) ∧
      2 * (n * d.stepUnits) ≤ 3 * (valueAt (d.place n) - valueAt (d.place 0)) + d.stepUnits

namespace Checked

variable (h : d.Checked)

include h

/-! ## Stalls -/

/-- A walk that stands still before the end does not end. -/
lemma not_ends_of_stillAt (hn : d.place n ≤ rank d.stop) (still : d.StillAt n) : ¬ d.Ends := by
  rintro ⟨m, past⟩
  rw [h.cursor_le_stop_iff] at past
  rcases Nat.le_total m n with before | after
  · exact past ((h.place_mono before).trans hn)
  · obtain ⟨k, rfl⟩ := Nat.exists_eq_add_of_le after
    rw [h.place_of_stillAt hn still] at past
    exact past hn

/-- A walk ascends unless it stalls. -/
lemma ascends_iff : d.Ascends ↔ ¬ d.Stalls := by
  constructor
  · intro ascends stalls
    obtain ⟨n, hn, still⟩ := h.exists_stillAt_of_stalls stalls
    exact (h.cursor_lt_succ_iff hn).1 (ascends n (h.cursor_le_stop_iff.2 hn)) still
  · intro moves n hn
    rw [h.cursor_le_stop_iff] at hn
    exact (h.cursor_lt_succ_iff hn).2 fun still => moves (h.stalls_of_stillAt hn still)

/-! ## Progress -/

/-- A step to a higher place adds to the progress. -/
lemma progress_succ (hn : d.place (n + 1) ≤ rank d.stop) (moved : d.place n < d.place (n + 1))
    (progress : d.Progress n) : d.Progress (n + 1) := by
  have scaled : ((n + 1 : Nat) : Int) * d.stepUnits = n * d.stepUnits + d.stepUnits := by
    push_cast
    ring
  have pos := h.step_pos
  unfold Progress
  rw [scaled]
  -- Once the gaps are as large as the step, every step is at least as long as it should be.
  rcases progress with way | ⟨nonneg, wide, way⟩
  · rcases (h.nearest_succ hn).step_le_of_step moved with long | ⟨nonneg, wide, short⟩
    · exact .inl (by omega)
    · exact .inr ⟨nonneg, wide, by omega⟩
  · have next := valueAt_succ (d.place n)
    have up := valueAt_strictMono.monotone (show d.place n + 1 ≤ d.place (n + 1) by omega)
    have wider := gapAt_le_of_nonneg nonneg moved.le
    exact .inr ⟨by omega, by omega, by omega⟩

/-- A walk that does not stall makes progress up to its end. -/
lemma progress (moves : ¬ d.Stalls) (hn : d.place n ≤ rank d.stop) : d.Progress n := by
  induction n with
  | zero => exact .inl (by simp)
  | succ n ih =>
    have here := (h.place_mono (Nat.le_succ n)).trans hn
    have moved := (h.place_lt_succ_iff here).2 fun still => moves (h.stalls_of_stillAt here still)
    exact h.progress_succ hn moved (ih here)

/-- A walk that does not stall passes the end within one and a half times the largest number of
steps and two more. -/
lemma le_of_place_le (moves : ¬ d.Stalls) (hn : d.place n ≤ rank d.stop) :
    2 * n ≤ 3 * 10 ^ 9 + 2 := by
  have last := valueAt_strictMono.monotone hn
  have pos := h.step_pos
  have short := h.short
  rw [← place_zero] at short
  have few : (4 * n : Int) < 6 * 10 ^ 9 + 5 := by
    apply lt_of_mul_lt_mul_right _ pos.le
    rw [Int.mul_assoc]
    rcases h.progress moves hn with way | ⟨_, _, way⟩
    · omega
    · omega
  omega

/-- A walk ends unless it stalls. -/
lemma ends_iff : d.Ends ↔ ¬ d.Stalls := by
  constructor
  · intro ends stalls
    obtain ⟨n, hn, still⟩ := h.exists_stillAt_of_stalls stalls
    exact h.not_ends_of_stillAt hn still ends
  · intro moves
    by_contra forever
    have never : ∀ n, d.cursor n ≤ d.stop := by
      intro n
      by_contra past
      exact forever ⟨n, past⟩
    have := h.le_of_place_le moves (h.cursor_le_stop_iff.1 (never (2 * 10 ^ 9)))
    omega

/-! ## The number of samples -/

/-- The samples of a walk that does not stall are its abscissas up to the end. -/
lemma samples_of_not_stalls (valid : d.isValid = true) (moves : ¬ d.Stalls) :
    d.samples = (List.range d.sampleCount).map d.cursor ∧
      ∀ k, d.cursor k ≤ d.stop ↔ k < d.sampleCount := by
  have ends : ∃ n, ¬ d.cursor n ≤ d.stop := h.ends_iff.2 moves
  have past := Nat.find_spec ends
  have before : ∀ k < Nat.find ends, d.cursor k ≤ d.stop :=
    fun k hk => Classical.not_not.1 (Nat.find_min ends hk)
  have samples := samples_eq valid (h.ascends_iff.2 moves) past before
  have count : d.sampleCount = Nat.find ends := by
    rw [sampleCount, samples, List.length_map, List.length_range]
  rw [count]
  refine ⟨samples, fun k => ⟨fun hk => ?_, before k⟩⟩
  by_contra beyond
  rw [h.cursor_le_stop_iff] at hk past
  exact past ((h.place_mono (Nat.le_of_not_lt beyond)).trans hk)

/-- A walk that ends has at most one and a half times as many samples as the check allows steps, and two
more. -/
lemma sampleCount_le (moves : ¬ d.Stalls) (within : ∀ k, d.cursor k ≤ d.stop ↔ k < d.sampleCount) :
    2 * d.sampleCount ≤ 3 * 10 ^ 9 + 4 := by
  rcases Nat.eq_zero_or_pos d.sampleCount with none | some
  · omega
  · have last := (within (d.sampleCount - 1)).2 (by omega)
    have := h.le_of_place_le moves (h.cursor_le_stop_iff.1 last)
    omega

end Checked

/-! ## What the check lets through -/

/-- One abscissa more than the largest number of steps. -/
def maxCount : Nat := 10 ^ 9 + 1

/-- A walk as the check means it: it goes up with every step, it ends, and it visits no more abscissas
than the largest number of steps allows. -/
def Scannable (d : Domain) : Prop := d.Ascends ∧ d.Ends ∧ d.sampleCount ≤ maxCount

instance : Decidable d.Stalls := inferInstanceAs (Decidable (_ ∧ _))

/-- A checked domain is walked through just when it does not show the signs of a stall. Such a walk
visits the abscissas one by one up to the end, at most two more than one and a half times the largest
number of steps. They are no more than the check allows just when that many additions of the step
pass the end. -/
theorem scannable_iff (d : Domain) (valid : d.isValid = true) :
    (d.Scannable ↔ ¬ d.Stalls ∧ ¬ d.cursor maxCount ≤ d.stop) ∧
      (d.Ascends ↔ ¬ d.Stalls) ∧ (d.Ends ↔ ¬ d.Stalls) ∧
      (d.Ends → d.samples = (List.range d.sampleCount).map d.cursor ∧
        (∀ k, d.cursor k ≤ d.stop ↔ k < d.sampleCount) ∧ 2 * d.sampleCount ≤ 3 * 10 ^ 9 + 4) := by
  have h := checked_of_isValid valid
  refine ⟨?_, h.ascends_iff, h.ends_iff, ?_⟩
  · constructor
    · rintro ⟨ascends, _, few⟩
      have moves := h.ascends_iff.1 ascends
      obtain ⟨_, within⟩ := h.samples_of_not_stalls valid moves
      exact ⟨moves, fun last => Nat.not_lt.2 few ((within maxCount).1 last)⟩
    · rintro ⟨moves, last⟩
      obtain ⟨_, within⟩ := h.samples_of_not_stalls valid moves
      refine ⟨h.ascends_iff.2 moves, h.ends_iff.2 moves, Nat.le_of_not_lt fun many => ?_⟩
      exact last ((within maxCount).2 many)
  · intro ends
    have moves := h.ends_iff.1 ends
    obtain ⟨samples, within⟩ := h.samples_of_not_stalls valid moves
    exact ⟨samples, within, h.sampleCount_le moves within⟩

/-- The unit interval in quarters is walked through. -/
theorem scannable_quarters :
    (Domain.mk 0.0 1.0 0.25).isValid = true ∧ (Domain.mk 0.0 1.0 0.25).Scannable := by
  have valid : (Domain.mk 0.0 1.0 0.25).isValid = true := by decide +kernel
  obtain ⟨_, ascends, ends, samples⟩ := scannable_iff ⟨0.0, 1.0, 0.25⟩ valid
  have moves : ¬ (Domain.mk 0.0 1.0 0.25).Stalls := by decide +kernel
  obtain ⟨_, within, _⟩ := samples (ends.2 moves)
  have past : ¬ (Domain.mk 0.0 1.0 0.25).cursor 5 ≤ 1.0 := by decide +kernel
  have few : (Domain.mk 0.0 1.0 0.25).sampleCount ≤ 5 :=
    Nat.le_of_not_lt fun many => past ((within 5).2 many)
  exact ⟨valid, ascends.2 moves, ends.2 moves, few.trans (by decide)⟩

/-- Above `-2 ^ 53` the doubles are one apart. Half a step moves both ends of this interval, which are
odd, but not the even double between them, so the walk does not end. -/
theorem not_ends_of_halves :
    (Domain.mk (-9007199254740991.0) (-9007199254740989.0) 0.5).isValid = true ∧
      ¬ (Domain.mk (-9007199254740991.0) (-9007199254740989.0) 0.5).Ascends ∧
      ¬ (Domain.mk (-9007199254740991.0) (-9007199254740989.0) 0.5).Ends := by
  have valid : (Domain.mk (-9007199254740991.0) (-9007199254740989.0) 0.5).isValid = true := by
    decide +kernel
  have h := checked_of_isValid valid
  have inside : (Domain.mk (-9007199254740991.0) (-9007199254740989.0) 0.5).cursor 1 ≤
      -9007199254740989.0 := by
    decide +kernel
  have stuck : ¬ (Domain.mk (-9007199254740991.0) (-9007199254740989.0) 0.5).cursor 1 <
      (Domain.mk (-9007199254740991.0) (-9007199254740989.0) 0.5).cursor 2 := by
    decide +kernel
  have hn := h.cursor_le_stop_iff.1 inside
  have still := Classical.not_not.1 fun moved => stuck ((h.cursor_lt_succ_iff hn).2 moved)
  exact ⟨valid, fun ascends => stuck (ascends 1 inside), h.not_ends_of_stillAt hn still⟩

/-- From `2 ^ 53` on the doubles are two apart, and steps of two and a half are rounded to two. -/
def roundedSteps : Domain := ⟨9007199254740992.0, 9007201754740992.0, 2.5⟩

/-- In this domain the step is one and a quarter of a gap. -/
lemma gapAt_roundedSteps : ∃ u, 0 < u ∧ roundedSteps.stepUnits = 5 * u ∧
    ∀ r, rank roundedSteps.start ≤ r → r ≤ rank roundedSteps.stop → gapAt r = 4 * u := by
  have nonneg : 0 ≤ rank roundedSteps.start := by decide +kernel
  have low : gapAt (rank roundedSteps.start) = 4 * 2 ^ 1073 := by decide +kernel
  have high : gapAt (rank roundedSteps.stop) = 4 * 2 ^ 1073 := by decide +kernel
  refine ⟨2 ^ 1073, Int.pow_pos (by decide), by decide +kernel, fun r hr hr' => ?_⟩
  apply le_antisymm
  · exact high ▸ gapAt_le_of_nonneg (nonneg.trans hr) hr'
  · exact low ▸ gapAt_le_of_nonneg nonneg hr

/-- A walk that ends can visit more abscissas than the check allows. -/
theorem maxCount_lt_sampleCount :
    roundedSteps.isValid = true ∧ maxCount < roundedSteps.sampleCount := by
  have valid : roundedSteps.isValid = true := by decide +kernel
  have moves : ¬ roundedSteps.Stalls := by decide +kernel
  have long : rank roundedSteps.start + maxCount ≤ rank roundedSteps.stop := by decide +kernel
  have h := checked_of_isValid valid
  obtain ⟨u, pos, step, gaps⟩ := gapAt_roundedSteps
  obtain ⟨_, within⟩ := h.samples_of_not_stalls valid moves
  have next : ∀ r, roundedSteps.place 0 ≤ r → r < rank roundedSteps.stop →
      Nearest ((valueAt r + roundedSteps.stepUnits : Int) : ℚ) (r + 1) := by
    intro r hr hr'
    rw [place_zero] at hr
    have here := gaps r hr hr'.le
    have above := gaps (r + 1) (by omega) hr'
    exact Nearest.succ_of_step (by omega) (by omega)
  have walk := h.place_eq_add le_rfl next maxCount long
  refine ⟨valid, (within maxCount).1 (h.cursor_le_stop_iff.2 ?_)⟩
  rw [walk]
  exact long

end PolySurvey.Domain
