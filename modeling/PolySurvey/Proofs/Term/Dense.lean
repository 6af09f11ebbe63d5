import PolySurvey.Proofs.Number.Zero
import PolySurvey.Proofs.Term.Merging

/-!
# The dense vector of a list of terms

What an exponent holds when all terms are gathered depends on the coefficients of the terms that have
it, in their order, and on nothing else: the policy takes the last of them or their sum. One term adds
one coefficient to what its own exponent holds, and a list of terms is gathered by induction. So terms
of different exponents may come in any order, and terms with a negative exponent make no difference.
-/

namespace PolySurvey

open Number

/-- The coefficients of the terms that have an exponent, in order. -/
def coefficientsAt (terms : List Term) (n : Nat) : List Float :=
  (terms.filter fun term => term.exponent = (n : Int)).map Term.coefficient

section

variable {terms : List Term} {n : Nat}

/-- An exponent has no coefficients where no term has it. -/
lemma coefficientsAt_eq_nil_iff :
    coefficientsAt terms n = [] ↔ ∀ term ∈ terms, term.exponent ≠ n := by
  simp [coefficientsAt]

/-- A negative exponent is none of the exponents looked at. -/
lemma coefficientsAt_filter (terms : List Term) (n : Nat) :
    coefficientsAt (terms.filter fun term => 0 ≤ term.exponent) n = coefficientsAt terms n := by
  unfold coefficientsAt
  rw [List.filter_filter]
  congr 2
  funext term
  by_cases here : term.exponent = n
  · simp [here]
  · simp [here]

/-- Where no exponent comes twice, none has more than one coefficient. -/
lemma length_coefficientsAt_le (distinct : ((terms.map Term.exponent).filter (0 ≤ ·)).Nodup) (n : Nat) :
    (coefficientsAt terms n).length ≤ 1 := by
  have count := List.nodup_iff_count_le_one.1 distinct n
  rw [List.count_filter (by simp), List.count, List.countP_map, List.countP_eq_length_filter] at count
  rw [coefficientsAt, List.length_map]
  exact count

end

namespace MergePolicy

/-- What the coefficients of one exponent come to: the last of them, or their sum from left to right.
Without any it is zero. -/
def combine : MergePolicy → List Float → Float
  | .overwrite, cs => cs.getLast?.getD 0.0
  | .accumulate, cs => cs.foldl (· + ·) 0.0

/-- What an exponent holds after one more coefficient. -/
def next : MergePolicy → Float → Float → Float
  | .overwrite, _, c => c
  | .accumulate, x, c => x + c

/-- Coefficients that are taken one after the other come to what the policy makes of them. -/
lemma foldl_next (policy : MergePolicy) (cs : List Float) :
    cs.foldl policy.next 0.0 = policy.combine cs := by
  cases policy with
  | accumulate => rfl
  | overwrite =>
    cases cs using List.reverseRecOn with
    | nil => rfl
    | append_singleton cs c => simp [combine, next]

/-- A single number is what it comes to, whatever the policy is; its zeros may lose their sign. -/
lemma combine_beq_combine {cs : List Float} (single : cs.length ≤ 1) (number : ∀ c ∈ cs, IsNumber c) :
    (combine .overwrite cs == combine .accumulate cs) = true := by
  match cs with
  | [] => rfl
  | [c] => exact beq_zero_add (number c (List.mem_cons_self ..))

end MergePolicy

namespace MergedTerms

variable {policy : MergePolicy} {merged : MergedTerms} {term : Term} {terms : List Term} {n : Nat}

/-! ## What an exponent holds -/

/-- One more term changes what its own exponent holds, and nothing else. -/
lemma getD_add : (merged.add policy term).getD n 0.0 =
    if term.exponent = n then policy.next (merged.getD n 0.0) term.coefficient
    else merged.getD n 0.0 := by
  unfold add
  split
  · next negative =>
    have : term.exponent ≠ n := by omega
    rw [if_neg this]
  · next natural =>
    have same : term.exponent.toNat = n ↔ term.exponent = n := by omega
    cases policy with
    | overwrite => simp only [Std.TreeMap.getD_insert, Nat.compare_eq_eq, same, MergePolicy.next]
    | accumulate =>
      by_cases here : term.exponent = n
      · simp [here, MergePolicy.next]
      · simp [here, mt same.1 here, Std.TreeMap.getD_insert]

/-- An exponent takes its own coefficients one after the other. -/
lemma getD_foldl_add : (terms.foldl (add policy) merged).getD n 0.0 =
    (coefficientsAt terms n).foldl policy.next (merged.getD n 0.0) := by
  induction terms generalizing merged with
  | nil => rfl
  | cons term terms ih =>
    rw [List.foldl_cons, ih, getD_add, coefficientsAt, coefficientsAt]
    by_cases here : term.exponent = n
    · rw [if_pos here, List.filter_cons_of_pos (by simpa using here)]
      rfl
    · rw [if_neg here, List.filter_cons_of_neg (by simpa using here)]

/-- An exponent holds what its coefficients come to. -/
lemma getD_ofTerms : (ofTerms policy terms).getD n 0.0 = policy.combine (coefficientsAt terms n) := by
  rw [ofTerms, getD_foldl_add, ← MergePolicy.foldl_next]
  rfl

/-! ## The places of the vector -/

/-- There is a place up to every exponent that has a coefficient. -/
lemma lt_places_iff_coefficientsAt : n < (ofTerms policy terms).places ↔
    n = 0 ∨ ∃ m, n ≤ m ∧ coefficientsAt terms m ≠ [] := by
  rw [lt_places_ofTerms]
  refine or_congr_right ⟨?_, ?_⟩
  · rintro ⟨term, mem, le⟩
    refine ⟨term.exponent.toNat, by omega, fun none => ?_⟩
    exact coefficientsAt_eq_nil_iff.1 none term mem (by omega)
  · rintro ⟨m, le, some⟩
    by_contra! below
    refine some (coefficientsAt_eq_nil_iff.2 fun term mem => ?_)
    have := below term mem
    omega

/-- The last place is that of the largest exponent. -/
lemma isGreatest_places (natural : ∃ term ∈ terms, 0 ≤ term.exponent) :
    IsGreatest {e : Int | 0 ≤ e ∧ ∃ term ∈ terms, term.exponent = e}
      ((ofTerms policy terms).places - 1) := by
  have pos := places_pos (ofTerms policy terms)
  constructor
  · have last : (ofTerms policy terms).places - 1 < (ofTerms policy terms).places := by omega
    obtain ⟨term, mem, le⟩ : ∃ term ∈ terms,
        ((ofTerms policy terms).places - 1 : Int) ≤ term.exponent := by
      rcases lt_places_ofTerms.1 last with zero | ⟨term, mem, le⟩
      · obtain ⟨term, mem, nonneg⟩ := natural
        exact ⟨term, mem, by omega⟩
      · exact ⟨term, mem, by omega⟩
    have top : term.exponent.toNat < (ofTerms policy terms).places :=
      lt_places_ofTerms.2 (.inr ⟨term, mem, by omega⟩)
    exact ⟨by omega, term, mem, by omega⟩
  · rintro e ⟨nonneg, term, mem, rfl⟩
    have below : term.exponent.toNat < (ofTerms policy terms).places :=
      lt_places_ofTerms.2 (.inr ⟨term, mem, by omega⟩)
    omega

/-! ## The vector -/

/-- Each place of the vector holds what the coefficients of its exponent come to. -/
lemma dense_eq_map (policy : MergePolicy) (terms : List Term) : (ofTerms policy terms).dense =
    (List.range (ofTerms policy terms).places).map fun n =>
      policy.combine (coefficientsAt terms n) := by
  simp only [dense_eq, getD_ofTerms]

/-- Without a power there is one place. -/
lemma dense_eq_singleton (constant : ∀ term ∈ terms, term.exponent = 0) :
    (ofTerms policy terms).dense = [policy.combine (terms.map Term.coefficient)] := by
  have places : (ofTerms policy terms).places = 1 := by
    refine eq_of_forall_lt_iff fun n => ?_
    rw [lt_places_ofTerms, Nat.lt_one_iff, or_iff_left_iff_imp]
    rintro ⟨term, mem, le⟩
    have := constant term mem
    omega
  have every : coefficientsAt terms 0 = terms.map Term.coefficient := by
    rw [coefficientsAt, List.filter_eq_self.2 fun term mem => by simp [constant term mem]]
  rw [dense_eq_map, places, List.range_one, List.map_singleton, every]

/-- The vector is known from the coefficients of each exponent. -/
lemma dense_congr {terms' : List Term} (h : ∀ n, coefficientsAt terms' n = coefficientsAt terms n) :
    (ofTerms policy terms').dense = (ofTerms policy terms).dense := by
  have places : (ofTerms policy terms').places = (ofTerms policy terms).places :=
    eq_of_forall_lt_iff fun n => by simp only [lt_places_iff_coefficientsAt, h]
  rw [dense_eq_map, dense_eq_map, places]
  simp only [h]

/-- Where no exponent comes twice, both policies give equal vectors. -/
lemma dense_beq_dense (distinct : ((terms.map Term.exponent).filter (0 ≤ ·)).Nodup)
    (number : ∀ term ∈ terms, IsNumber term.coefficient) :
    ((ofTerms .overwrite terms).dense == (ofTerms .accumulate terms).dense) = true := by
  have places : (ofTerms .overwrite terms).places = (ofTerms .accumulate terms).places :=
    eq_of_forall_lt_iff fun n => by simp only [lt_places_ofTerms]
  rw [dense_eq_map, dense_eq_map, places]
  induction List.range (ofTerms .accumulate terms).places with
  | nil => rfl
  | cons n places ih =>
    have numbers : ∀ c ∈ coefficientsAt terms n, IsNumber c := by
      intro c hc
      obtain ⟨term, mem, rfl⟩ := List.mem_map.1 hc
      exact number term (List.mem_of_mem_filter mem)
    rw [List.map_cons, List.map_cons, List.cons_beq_cons, ih,
      MergePolicy.combine_beq_combine (length_coefficientsAt_le distinct n) numbers]
    rfl

/-- Terms with any exponents, laid out as a dense vector. The last place is that of the largest
exponent that is not negative, whatever its coefficient is; without such an exponent there is one
place. A place holds zero if no term has its exponent, and else the last coefficient of that exponent,
or the sum of them all from left to right, as the policy says. The order of terms with different
exponents does not matter, and terms with a negative exponent change nothing. Where no other exponent
comes twice and no coefficient is NaN, the policies agree. -/
theorem dense_ofTerms (policy : MergePolicy) (terms : List Term) :
    let cs := (ofTerms policy terms).dense
    ((∃ term ∈ terms, 0 ≤ term.exponent) →
        IsGreatest {e : Int | 0 ≤ e ∧ ∃ term ∈ terms, term.exponent = e} (cs.length - 1)) ∧
      ((∀ term ∈ terms, term.exponent < 0) → cs.length = 1) ∧
      (∀ n < cs.length, cs[n]? = some (policy.combine (coefficientsAt terms n)) ∧
        ((∀ term ∈ terms, term.exponent ≠ n) → cs[n]? = some 0.0)) ∧
      (∀ terms', (∀ n, coefficientsAt terms' n = coefficientsAt terms n) →
        (ofTerms policy terms').dense = cs) ∧
      (ofTerms policy (terms.filter fun term => 0 ≤ term.exponent)).dense = cs ∧
      (((terms.map Term.exponent).filter (0 ≤ ·)).Nodup →
        (∀ term ∈ terms, term.coefficient.isNaN = false) →
          ((ofTerms .overwrite terms).dense == (ofTerms .accumulate terms).dense) = true) := by
  intro cs
  have length : cs.length = (ofTerms policy terms).places := length_dense _
  refine ⟨fun natural => ?_, fun negative => ?_, fun n hn => ?_, fun terms' => dense_congr,
    dense_congr (coefficientsAt_filter terms), fun distinct number => ?_⟩
  · rw [length]
    exact isGreatest_places natural
  · -- A second place would be that of an exponent, and no term has one that counts.
    have pos := places_pos (ofTerms policy terms)
    rw [length]
    by_contra more
    rcases lt_places_ofTerms.1 (show 1 < (ofTerms policy terms).places by omega) with zero | some
    · cases zero
    · obtain ⟨term, mem, le⟩ := some
      have := negative term mem
      omega
  · rw [length] at hn
    have here : cs[n]? = some (policy.combine (coefficientsAt terms n)) :=
      (getElem?_dense hn).trans (congrArg some getD_ofTerms)
    refine ⟨here, fun absent => ?_⟩
    rw [here, coefficientsAt_eq_nil_iff.2 absent]
    cases policy <;> rfl
  · exact dense_beq_dense distinct fun term mem => isNumber_of_not_isNaN (number term mem)

/-- A zero at the top has its place, and a negative exponent has none. Two terms change places. -/
theorem dense_ofTerms_gaps :
    let terms : List Term := [⟨2.0, 3⟩, ⟨1.0, -1⟩, ⟨-0.0, 1⟩, ⟨0.0, 5⟩]
    let other : List Term := [⟨-0.0, 1⟩, ⟨2.0, 3⟩, ⟨0.0, 5⟩]
    let cs := (ofTerms .accumulate terms).dense
    (∃ term ∈ terms, 0 ≤ term.exponent) ∧
      IsGreatest {e : Int | 0 ≤ e ∧ ∃ term ∈ terms, term.exponent = e} (cs.length - 1) ∧
      (ofTerms .accumulate [⟨1.0, -1⟩]).dense.length = 1 ∧
      cs[3]? = some (0.0 + 2.0) ∧ cs[2]? = some 0.0 ∧
      (ofTerms .accumulate other).dense = cs ∧
      ((ofTerms .overwrite terms).dense == (ofTerms .accumulate terms).dense) = true := by
  intro terms other cs
  obtain ⟨greatest, _, place, order, _, agree⟩ := dense_ofTerms .accumulate terms
  obtain ⟨_, single, _⟩ := dense_ofTerms .accumulate [⟨1.0, -1⟩]
  have natural : ∃ term ∈ terms, 0 ≤ term.exponent := ⟨⟨2.0, 3⟩, .head _, by decide⟩
  have length : 3 < cs.length := by decide +kernel
  have same : ∀ n, coefficientsAt other n = coefficientsAt terms n := by
    intro n
    by_cases one : n = 1
    · subst one
      decide +kernel
    · have one : ¬ (1 : Int) = n := by omega
      have negative : ¬ (-1 : Int) = n := by omega
      simp [coefficientsAt, terms, other, List.filter_cons, one, negative]
  refine ⟨natural, greatest natural, single (by decide), (place 3 length).1, ?_, order other same,
    agree (by decide) (by decide +kernel)⟩
  exact (place 2 (Nat.lt_of_succ_lt length)).2 (by decide)

end MergedTerms

end PolySurvey
