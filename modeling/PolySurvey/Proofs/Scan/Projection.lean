import PolySurvey.Proofs.Scan.Runs

/-!
# Collapsing twice

In exact arithmetic the mean of an ascending run lies between its first point and its last. So the
means of two neighbouring runs are at least as far apart as the points at the cut between them, however
long the runs are, and collapsing a second time finds only runs of one point.
-/

namespace PolySurvey

variable {points run : List ℚ} {cuts : List (List ℚ)} {gap p q : ℚ}

/-! ## Exact arithmetic -/

/-- In exact arithmetic the limit is the gap and a millionth of it. -/
lemma apart_iff : Apart gap p q ↔ gap * (1 + 1 / 10 ^ 6) < q - p := by
  have limit : runLimit gap = gap * (1 + 1 / 10 ^ 6) := by
    unfold runLimit
    norm_num
  rw [Apart, limit]

/-- Where the gap is not negative, a point that stands apart is above the one before it. -/
lemma Apart.lt (nonneg : 0 ≤ gap) (apart : Apart gap p q) : p < q := by
  have limit : 0 ≤ gap * (1 + 1 / 10 ^ 6) := by positivity
  rw [apart_iff] at apart
  linarith

/-- What lies around two points that stand apart does so as well. -/
lemma Apart.mono {p' q' : ℚ} (apart : Apart gap p q) (below : p' ≤ p) (above : q ≤ q') :
    Apart gap p' q' := by
  rw [apart_iff] at apart ⊢
  linarith

/-- In exact arithmetic the mean is the sum divided by the length: negative zero is zero. -/
lemma mean_eq_sum_div (run : List ℚ) : mean run = run.sum / run.length := by
  have zero : (-0.0 : ℚ) = 0 := by norm_num
  rw [mean, zero, ← List.sum_eq_foldl]

/-! ## Means -/

/-- The mean of an ascending run lies between its ends. -/
lemma mean_mem (ascending : run.Pairwise (· ≤ ·)) (h : run ≠ []) :
    run.head h ≤ mean run ∧ mean run ≤ run.getLast h := by
  have long : 0 < (run.length : ℚ) := by exact_mod_cast List.length_pos_of_ne_nil h
  have low := List.card_nsmul_le_sum run (run.head h) fun p mem => ascending.rel_head mem
  have high := List.sum_le_card_nsmul run (run.getLast h) fun p mem => ascending.rel_getLast mem
  rw [nsmul_eq_mul] at low high
  rw [mean_eq_sum_div, le_div_iff₀' long, div_le_iff₀' long]
  exact ⟨low, high⟩

/-- The runs of an ascending list are ascending. -/
lemma Cut.ascending {apart : ℚ → ℚ → Prop} (cut : Cut apart points cuts)
    (ascending : points.Pairwise (· ≤ ·)) (mem : run ∈ cuts) : run.Pairwise (· ≤ ·) := by
  rw [← cut.joins] at ascending
  exact ascending.sublist (List.sublist_flatten_of_mem mem)

/-- The means of neighbouring runs stand apart, as the points at the cut between them do. -/
lemma isChain_collapse (ascending : points.Pairwise (· ≤ ·)) :
    (collapse points gap).IsChain (Apart gap) := by
  obtain ⟨cuts, cut, eq⟩ := exists_cut points gap
  rw [eq, List.isChain_map]
  refine cut.between.imp_of_mem_imp ?_
  rintro run later mem mem' ⟨h, h', apart⟩
  have below := (mean_mem (cut.ascending ascending mem) h).2
  have above := (mean_mem (cut.ascending ascending mem') h').1
  exact apart.mono below above

/-- Points that all stand apart are not changed. -/
lemma collapse_of_apart (h : points.IsChain (Apart gap)) : collapse points gap = points := by
  have alone : ∀ p : ℚ, mean [p] = p := fun p => by
    rw [mean_eq_sum_div, List.sum_singleton, List.length_singleton, Nat.cast_one, div_one]
  rw [collapse_eq_map_mean (cut_of_apart h), List.map_map]
  exact List.map_id'' alone points

/-- In exact arithmetic, the collapse of an ascending list has one value for each run, between the
first and the last point of the run. The values ascend, each more than the gap and a millionth of it
above the one before, and collapsing them again changes nothing. -/
theorem collapse_projects (points : List ℚ) (gap : ℚ) (ascending : points.Pairwise (· ≤ ·))
    (nonneg : 0 ≤ gap) :
    (∃ cuts, Cut (fun p q => gap * (1 + 1 / 10 ^ 6) < q - p) points cuts ∧
        List.Forall₂ (fun run mean => ∃ h, run.head h ≤ mean ∧ mean ≤ run.getLast h) cuts
          (collapse points gap)) ∧
      (collapse points gap).IsChain (fun p q => gap * (1 + 1 / 10 ^ 6) < q - p) ∧
      (collapse points gap).Pairwise (· < ·) ∧
      collapse (collapse points gap) gap = collapse points gap := by
  have apart : (fun p q : ℚ => gap * (1 + 1 / 10 ^ 6) < q - p) = Apart gap := by
    funext p q
    exact propext apart_iff.symm
  have separate : (collapse points gap).IsChain (Apart gap) := isChain_collapse ascending
  rw [apart]
  refine ⟨?_, separate, ?_, collapse_of_apart separate⟩
  · obtain ⟨cuts, cut, eq⟩ := exists_cut points gap
    refine ⟨cuts, cut, ?_⟩
    rw [eq, List.forall₂_map_right_iff, List.forall₂_same]
    intro run mem
    have h := cut.nonempty run mem
    exact ⟨h, mean_mem (cut.ascending ascending mem) h⟩
  · exact (separate.imp fun p q apart => apart.lt nonneg).pairwise

/-- A run can be longer than the gap: the first four points are one run, and its mean stands more than
the gap below the next. -/
theorem collapse_projects_long_run :
    let points : List ℚ := [0, 1, 2, 3, 9 / 2, 9 / 2, 7]
    let means : List ℚ := [3 / 2, 9 / 2, 7]
    points.Pairwise (· ≤ ·) ∧ (0 : ℚ) ≤ 1 ∧ collapse points 1 = means ∧
      (∃ cuts, Cut (fun p q => 1 * (1 + 1 / 10 ^ 6) < q - p) points cuts ∧
        List.Forall₂ (fun run mean => ∃ h, run.head h ≤ mean ∧ mean ≤ run.getLast h) cuts means) ∧
      means.IsChain (fun p q => 1 * (1 + 1 / 10 ^ 6) < q - p) ∧ means.Pairwise (· < ·) ∧
      collapse means 1 = means := by
  intro points means
  have ascending : points.Pairwise (· ≤ ·) := by decide +kernel
  have nonneg : (0 : ℚ) ≤ 1 := by decide
  have once : collapse points 1 = means := by decide +kernel
  obtain ⟨between, separate, strict, twice⟩ := collapse_projects points 1 ascending nonneg
  rw [once] at between separate strict twice
  exact ⟨ascending, nonneg, once, between, separate, strict, twice⟩

end PolySurvey
