import PolySurvey.Proofs.Number.Neutral
import PolySurvey.Scan.Collapse

/-!
# Runs of points

A list is cut into runs wherever a point stands apart from the one before it. There is one way to do
so, whatever the order of the points and whether or not they can be compared. The walk that collapses
the points holds, after any number of them, the last run of their cut and the means of the runs before
it; so in the end each run has given one value. A run of one point gives that point.
-/

namespace PolySurvey

open Number

universe u

/-- A way to cut a list of points into runs. -/
structure Cut {α : Type u} (apart : α → α → Prop) (points : List α) (cuts : List (List α)) : Prop where
  /-- The runs, one after another, are the list. -/
  joins : cuts.flatten = points
  nonempty : ∀ run ∈ cuts, run ≠ []
  /-- In a run, no point stands apart from the one before it. -/
  within : ∀ run ∈ cuts, run.IsChain fun last next => ¬ apart last next
  /-- Across a cut, the first point of a run stands apart from the last one before it. -/
  between : cuts.IsChain fun run later => ∃ h h', apart (run.getLast h) (later.head h')

namespace Cut

variable {α : Type u} {apart : α → α → Prop} {points run : List α} {cuts cuts' : List (List α)} {p : α}

/-! ## One point more -/

/-- A single point is one run. -/
lemma single : Cut apart [p] [[p]] where
  joins := rfl
  nonempty := List.forall_mem_singleton.2 (List.cons_ne_nil p [])
  within := List.forall_mem_singleton.2 (List.isChain_singleton p)
  between := List.isChain_singleton _

/-- A point that does not stand apart from the last one joins its run. -/
lemma join (cut : Cut apart points (cuts ++ [run])) (h : run ≠ []) (close : ¬ apart (run.getLast h) p) :
    Cut apart (points ++ [p]) (cuts ++ [run ++ [p]]) where
  joins := by simp [← cut.joins]
  nonempty := by
    obtain ⟨earlier, _⟩ := List.forall_mem_append.1 cut.nonempty
    exact List.forall_mem_append.2
      ⟨earlier, List.forall_mem_singleton.2 (List.append_ne_nil_of_left_ne_nil h [p])⟩
  within := by
    obtain ⟨earlier, last⟩ := List.forall_mem_append.1 cut.within
    refine List.forall_mem_append.2 ⟨earlier, List.forall_mem_singleton.2 ?_⟩
    refine (List.forall_mem_singleton.1 last).append (List.isChain_singleton p) fun last hl next hn => ?_
    obtain rfl := Option.mem_some.1 hn
    obtain rfl := Option.mem_some.1 (List.getLast?_eq_some_getLast h ▸ hl)
    exact close
  between := by
    have chain := cut.between
    rw [List.isChain_append] at chain ⊢
    refine ⟨chain.1, List.isChain_singleton _, fun before hb later hl => ?_⟩
    obtain rfl := Option.mem_some.1 hl
    obtain ⟨first, second, stands⟩ := chain.2.2 before hb run rfl
    refine ⟨first, List.append_ne_nil_of_left_ne_nil second [p], ?_⟩
    rwa [List.head_append_of_ne_nil second]

/-- A point that stands apart from the last one starts a run. -/
lemma start (cut : Cut apart points (cuts ++ [run])) (h : run ≠ []) (stands : apart (run.getLast h) p) :
    Cut apart (points ++ [p]) (cuts ++ [run] ++ [[p]]) where
  joins := by simp [← cut.joins]
  nonempty := List.forall_mem_append.2
    ⟨cut.nonempty, List.forall_mem_singleton.2 (List.cons_ne_nil p [])⟩
  within := List.forall_mem_append.2
    ⟨cut.within, List.forall_mem_singleton.2 (List.isChain_singleton p)⟩
  between := by
    refine List.isChain_append.2 ⟨cut.between, List.isChain_singleton _, fun before hb later hl => ?_⟩
    rw [List.getLast?_concat] at hb
    obtain rfl := Option.mem_some.1 hb
    obtain rfl := Option.mem_some.1 hl
    exact ⟨h, List.cons_ne_nil p [], stands⟩

/-! ## Only one cut -/

/-- The runs after the first are a cut of the points after it. -/
lemma tail (cut : Cut apart points (run :: cuts)) : Cut apart cuts.flatten cuts where
  joins := rfl
  nonempty := fun later mem => cut.nonempty later (List.mem_cons_of_mem run mem)
  within := fun later mem => cut.within later (List.mem_cons_of_mem run mem)
  between := cut.between.tail

/-- There is no run just when there is no point. -/
lemma eq_nil_iff (cut : Cut apart points cuts) : cuts = [] ↔ points = [] := by
  constructor
  · rintro rfl
    exact cut.joins.symm
  · rintro rfl
    rw [List.eq_nil_iff_forall_not_mem]
    exact fun run mem => cut.nonempty run mem (List.flatten_eq_nil_iff.1 cut.joins run mem)

/-- A list in which no point stands apart from the one before it does not go on beyond the first run. -/
lemma eq_nil_of_first {more rest : List α} (cut : Cut apart points (run :: cuts))
    (chain : (run ++ more).IsChain fun last next => ¬ apart last next)
    (joins : cuts.flatten = more ++ rest) : more = [] := by
  -- The first point beyond the run would start the next one, and so stand apart from the last one of
  -- the run.
  cases more with
  | nil => rfl
  | cons q more =>
    cases cuts with
    | nil => exact absurd joins.symm (List.cons_ne_nil q (more ++ rest))
    | cons later cuts =>
      obtain ⟨first, second, stands⟩ := (List.isChain_cons_cons.1 cut.between).1
      cases later with
      | nil => exact absurd rfl second
      | cons q' later =>
        obtain rfl : q' = q := (List.cons.inj joins).1
        have close := (List.isChain_append.1 chain).2.2 _ (List.getLast?_eq_some_getLast first) q' rfl
        exact absurd stands close

/-- There is one cut only: the first runs of two cuts are the same, since neither goes on beyond the
other, and so are the runs after them. -/
lemma unique (cut : Cut apart points cuts) (cut' : Cut apart points cuts') : cuts = cuts' := by
  induction cuts generalizing points cuts' with
  | nil => exact ((cut'.eq_nil_iff).2 (cut.eq_nil_iff.1 rfl)).symm
  | cons run cuts ih =>
    cases cuts' with
    | nil => exact cut.eq_nil_iff.2 (cut'.eq_nil_iff.1 rfl)
    | cons run' cuts' =>
      have joins : run ++ cuts.flatten = run' ++ cuts'.flatten := by
        rw [← List.flatten_cons, ← List.flatten_cons, cut.joins, cut'.joins]
      have chain := cut.within run List.mem_cons_self
      have chain' := cut'.within run' List.mem_cons_self
      obtain rfl : run = run' := by
        -- One of the two first runs goes on at least as far as the other.
        rcases List.append_eq_append_iff.1 joins with ⟨more, rfl, rest⟩ | ⟨more, rfl, rest⟩
        · rw [cut.eq_nil_of_first chain' rest, List.append_nil]
        · rw [cut'.eq_nil_of_first chain rest, List.append_nil]
      have rest := List.append_cancel_left joins
      rw [ih cut.tail (rest ▸ cut'.tail)]

end Cut

section

variable {R : Type u} [Add R] [Sub R] [Mul R] [OfScientific R] [LT R] {points : List R} {gap : R}
  {cuts : List (List R)}

/-- A point lies further above the one before it than the gap allows. -/
def Apart (gap last next : R) : Prop := runLimit gap < next - last

/-- Points that all stand apart are runs of their own. -/
lemma cut_of_apart (h : points.IsChain (Apart gap)) :
    Cut (Apart gap) points (points.map fun p => [p]) := by
  refine ⟨?_, ?_, ?_, ?_⟩
  · rw [← List.flatMap_def, List.flatMap_singleton']
  · exact List.forall_mem_map.2 fun p _ => List.cons_ne_nil p []
  · exact List.forall_mem_map.2 fun p _ => List.isChain_singleton p
  · rw [List.isChain_map]
    exact h.imp fun p q apart => ⟨List.cons_ne_nil p [], List.cons_ne_nil q [], apart⟩

/-! ## The walk -/

variable [Div R] [Neg R] [NatCast R]

/-- What a walk holds after some points: the means of all runs but the last, and the last run. -/
structure Gathered (gap : R) (points : List R) (ended : List (List R)) (g : Gathering R) : Prop where
  cut : Cut (Apart gap) points (ended ++ [g.run.reverse])
  means : g.means = (ended.map mean).reverse

variable {ended : List (List R)} {g : Gathering R}

/-- The last run has a point. -/
lemma Gathered.run_ne_nil (held : Gathered gap points ended g) : g.run ≠ [] :=
  List.reverse_ne_nil_iff.1 <|
    held.cut.nonempty _ (List.mem_append_right ended (List.mem_singleton_self g.run.reverse))

/-- When the last run has ended as well, each run has given its mean. -/
lemma Gathered.finish (held : Gathered gap points ended g) :
    g.finish = (ended ++ [g.run.reverse]).map mean := by
  have pending := held.run_ne_nil
  rw [Gathering.finish, if_neg (by rwa [List.isEmpty_iff]), Gathering.flush, held.means]
  simp

variable [DecidableLT R]

/-- One point more is held as well: it joins the last run, or ends it. -/
lemma Gathered.add (held : Gathered gap points ended g) (p : R) :
    ∃ ended', Gathered gap (points ++ [p]) ended' (g.add (runLimit gap) p) := by
  have pending := held.run_ne_nil
  obtain ⟨means, run⟩ := g
  obtain ⟨cut, rfl⟩ := held
  -- The last run of a cut has a point, and the latest one decides.
  cases run with
  | nil => exact absurd rfl pending
  | cons last run =>
    have h : (last :: run).reverse ≠ [] := List.reverse_ne_nil_iff.2 (List.cons_ne_nil last run)
    have latest : (last :: run).reverse.getLast h = last := by
      rw [List.getLast_reverse, List.head_cons]
    by_cases stands : Apart gap last p
    · rw [Gathering.add_of_lt stands]
      exact ⟨_, cut.start h (by rwa [latest]), by simp⟩
    · rw [Gathering.add_of_not_lt stands]
      refine ⟨ended, ?_, rfl⟩
      rw [List.reverse_cons]
      exact cut.join h (by rwa [latest])

/-- After all points, the walk holds the runs of a cut of them: by induction on the points to come. -/
lemma Gathered.foldl (held : Gathered gap points ended g) (rest : List R) :
    ∃ ended', Gathered gap (points ++ rest) ended' (rest.foldl (Gathering.add (runLimit gap)) g) := by
  induction rest generalizing points ended g with
  | nil => exact ⟨ended, by rwa [List.append_nil]⟩
  | cons p rest ih =>
    obtain ⟨ended', held'⟩ := held.add p
    rw [List.append_cons]
    exact ih held'

/-- The collapse folds the runs of a cut of the points. -/
lemma exists_cut (points : List R) (gap : R) :
    ∃ cuts, Cut (Apart gap) points cuts ∧ collapse points gap = cuts.map mean := by
  cases points with
  | nil => exact ⟨[], ⟨rfl, nofun, nofun, List.isChain_nil⟩, rfl⟩
  | cons p rest =>
    -- The first point starts a run whatever the gap is, and the induction begins with it.
    have held : Gathered gap [p] [] (Gathering.add (runLimit gap) {} p) := ⟨Cut.single, rfl⟩
    obtain ⟨ended, held⟩ := held.foldl rest
    exact ⟨_, held.cut, held.finish⟩

/-- The collapse folds the runs of any cut of the points, since there is only one. -/
lemma collapse_eq_map_mean (cut : Cut (Apart gap) points cuts) :
    collapse points gap = cuts.map mean := by
  obtain ⟨cuts', cut', eq⟩ := exists_cut points gap
  rw [eq, cut'.unique cut]

/-- There is one value just when there are points and none stands apart from the one before it. -/
lemma length_collapse_eq_one_iff : (collapse points gap).length = 1 ↔
    points ≠ [] ∧ points.IsChain fun last next => ¬ Apart gap last next := by
  constructor
  · intro one
    obtain ⟨cuts, cut, eq⟩ := exists_cut points gap
    rw [eq, List.length_map, List.length_eq_one_iff] at one
    obtain ⟨run, rfl⟩ := one
    have joins := cut.joins
    rw [List.flatten_singleton] at joins
    rw [← joins]
    exact ⟨cut.nonempty run List.mem_cons_self, cut.within run List.mem_cons_self⟩
  · rintro ⟨nonempty, chain⟩
    rw [collapse_eq_map_mean ⟨List.flatten_singleton, List.forall_mem_singleton.2 nonempty,
      List.forall_mem_singleton.2 chain, List.isChain_singleton _⟩]
    rfl

end

/-- The mean of a single double is that double, bit for bit. -/
lemma mean_singleton (p : Float) : mean [p] = p := by
  have one : ((1 : Nat) : Float) = 1.0 := rfl
  rw [mean, List.length_singleton, one, List.foldl_cons, List.foldl_nil, negZero_add, divide_one]

/-- A list of doubles can be cut in one way only, at the points that stand apart from those before
them, and the collapse gives one value for each run: the sum of the run from left to right, from
negative zero on, divided by its length. A run of one point gives that point, bit for bit. -/
theorem existsUnique_cut (points : List Float) (gap : Float) :
    (∃! cuts, Cut (fun last next => gap * (1.0 + 1e-6) < next - last) points cuts) ∧
      ∃ cuts, Cut (fun last next => gap * (1.0 + 1e-6) < next - last) points cuts ∧
        collapse points gap =
          cuts.map (fun run => run.foldl (· + ·) (-0.0) / (run.length : Float)) ∧
        ∀ (k : Nat) (p : Float), cuts[k]? = some [p] → (collapse points gap)[k]? = some p := by
  obtain ⟨cuts, cut, eq⟩ := exists_cut points gap
  refine ⟨⟨cuts, cut, fun cuts' cut' => cut'.unique cut⟩, cuts, cut, eq, ?_⟩
  intro k p alone
  rw [eq, List.getElem?_map, alone, Option.map_some, mean_singleton]

end PolySurvey
