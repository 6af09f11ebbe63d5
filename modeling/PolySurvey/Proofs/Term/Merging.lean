import Mathlib.Data.List.Nodup
import Mathlib.Tactic.Lemma
import PolySurvey.Term.Merge

/-!
# What is gathered

Terms are gathered one after the other, so what an exponent holds in the end is found by induction on
the terms. An exponent is gathered when a term has it, whatever the policy is, and the number of
places is one more than the largest of them. No exponent is gathered twice, so what is written to a place
of the vector stays there while the vector grows. When terms overwrite each other, an exponent holds the
coefficient of the last term that has it.
-/

namespace PolySurvey.MergedTerms

variable {policy : MergePolicy} {merged : MergedTerms} {term : Term} {terms : List Term} {n : Nat}

/-! ## Which exponents are gathered -/

/-- One more term gathers its own exponent. -/
lemma mem_add : n ∈ merged.add policy term ↔ term.exponent = n ∨ n ∈ merged := by
  unfold add
  split
  · next negative =>
    have : term.exponent ≠ n := by omega
    simp [this]
  · next natural =>
    have : term.exponent.toNat = n ↔ term.exponent = n := by omega
    cases policy with
    | overwrite => simp [this]
    | accumulate => simp [this]

/-- Several terms gather their exponents. -/
lemma mem_foldl_add :
    n ∈ terms.foldl (add policy) merged ↔ (∃ term ∈ terms, term.exponent = n) ∨ n ∈ merged := by
  induction terms generalizing merged with
  | nil => simp
  | cons term terms ih =>
    rw [List.foldl_cons, ih, mem_add]
    simp only [List.mem_cons, exists_eq_or_imp, or_assoc, or_left_comm]

/-- An exponent is gathered when a term has it. -/
lemma mem_ofTerms : n ∈ ofTerms policy terms ↔ ∃ term ∈ terms, term.exponent = n := by
  rw [ofTerms, mem_foldl_add]
  simp

/-- The largest of several bounds is beyond what any of them is beyond. -/
lemma lt_foldl_max {exponents : List Nat} {m : Nat} :
    n < exponents.foldl (fun places exponent => max places (exponent + 1)) m ↔
      n < m ∨ ∃ exponent ∈ exponents, n ≤ exponent := by
  induction exponents generalizing m with
  | nil => simp
  | cons exponent exponents ih =>
    have : n < max m (exponent + 1) ↔ n < m ∨ n ≤ exponent := by omega
    rw [List.foldl_cons, ih, this, or_assoc]
    simp only [List.mem_cons, exists_eq_or_imp]

/-- There is a place for the constant, and for every exponent up to one that is gathered. -/
lemma lt_places : n < merged.places ↔ n = 0 ∨ ∃ exponent ∈ merged, n ≤ exponent := by
  rw [places, lt_foldl_max, Nat.lt_one_iff]
  simp only [Std.TreeMap.mem_keys]

/-- There is a place for the constant, and for every exponent up to that of a term. -/
lemma lt_places_ofTerms : n < (ofTerms policy terms).places ↔
    n = 0 ∨ ∃ term ∈ terms, (n : Int) ≤ term.exponent := by
  rw [lt_places]
  refine or_congr_right ⟨?_, ?_⟩
  · rintro ⟨exponent, mem, le⟩
    obtain ⟨term, ht, eq⟩ := mem_ofTerms.1 mem
    exact ⟨term, ht, by omega⟩
  · rintro ⟨term, ht, le⟩
    exact ⟨term.exponent.toNat, mem_ofTerms.2 ⟨term, ht, by omega⟩, by omega⟩

/-- No more places are needed than the largest exponent asks for. -/
lemma places_ofTerms_le {bound : Nat} (h : ∀ term ∈ terms, term.exponent ≤ bound) :
    (ofTerms policy terms).places ≤ bound + 1 := by
  by_contra more
  rcases lt_places_ofTerms.1 (Nat.lt_of_not_le more) with zero | ⟨term, mem, le⟩
  · cases zero
  · have := h term mem
    omega

/-! ## What is written -/

section

variable {cs : Array Float} {entries : List (Nat × Float)} {exponent : Nat} {c : Float}

/-- A place that the vector does not have counts as zero, so to grow changes nothing. -/
lemma getD_rightpad (m : Nat) : (cs.rightpad m 0.0).getD n 0.0 = cs.getD n 0.0 := by
  rw [Array.getD_eq_getD_getElem?, Array.getD_eq_getD_getElem?, Array.rightpad,
    Array.getElem?_append]
  split
  · rfl
  · next beyond =>
    rw [Array.getElem?_eq_none (Nat.le_of_not_lt beyond), Array.getElem?_replicate]
    split <;> rfl

/-- What is written is at its place, and nothing else has changed. -/
lemma getD_write : (write cs exponent c).getD n 0.0 = if n = exponent then c else cs.getD n 0.0 := by
  unfold write
  set grown := if cs.size ≤ exponent then cs.rightpad (exponent + 1) 0.0 else cs with eq
  have same : grown.getD n 0.0 = cs.getD n 0.0 := by
    rw [eq, apply_ite (fun a : Array Float => a.getD n 0.0), getD_rightpad, ite_self]
  -- The vector has grown far enough, so the write is not out of bounds.
  have inside : exponent < grown.size := by
    rw [eq]
    split
    · rw [Array.size_rightpad]
      omega
    · omega
  rw [Array.getD_eq_getD_getElem?]
  by_cases here : n = exponent
  · rw [here, Array.getElem?_setIfInBounds_self_of_lt inside, if_pos rfl, Option.getD_some]
  · rw [Array.getElem?_setIfInBounds_ne (Ne.symm here), if_neg here, ← same,
      Array.getD_eq_getD_getElem?]

/-- A place to which nothing is written keeps what it holds. -/
lemma getD_foldl_write_of_forall_ne (other : ∀ entry ∈ entries, entry.1 ≠ n) :
    (entries.foldl (fun cs entry => write cs entry.1 entry.2) cs).getD n 0.0 = cs.getD n 0.0 := by
  induction entries generalizing cs with
  | nil => rfl
  | cons entry entries ih =>
    obtain ⟨first, rest⟩ := List.forall_mem_cons.1 other
    rw [List.foldl_cons, ih rest, getD_write, if_neg (Ne.symm first)]

/-- What has been written stays: no other entry has the same exponent. -/
lemma getD_foldl_write_of_mem (distinct : entries.Pairwise fun entry later => entry.1 ≠ later.1)
    (mem : (n, c) ∈ entries) :
    (entries.foldl (fun cs entry => write cs entry.1 entry.2) cs).getD n 0.0 = c := by
  induction entries generalizing cs with
  | nil => cases mem
  | cons entry entries ih =>
    obtain ⟨first, rest⟩ := List.pairwise_cons.1 distinct
    rw [List.foldl_cons]
    rcases List.mem_cons.1 mem with rfl | mem
    · rw [getD_foldl_write_of_forall_ne fun later hl => (first later hl).symm, getD_write, if_pos rfl]
    · exact ih rest mem

end

/-- A place of the dense vector holds what its exponent holds. -/
lemma getD_dense : merged.dense.getD n 0.0 = merged.getD n 0.0 := by
  have distinct : merged.toList.Pairwise fun entry later => entry.1 ≠ later.1 :=
    Std.TreeMap.distinct_keys_toList.imp fun apart => by rwa [Nat.compare_eq_eq] at apart
  rw [dense, Std.TreeMap.foldl_eq_foldl_toList, List.getD_eq_getElem?_getD, Array.getElem?_toList,
    ← Array.getD_eq_getD_getElem?, Std.TreeMap.getD_eq_getD_getElem?]
  -- An exponent that is gathered is written once; no other entry has it. To one that is not gathered
  -- nothing is written.
  cases held : merged[n]? with
  | some c =>
    exact getD_foldl_write_of_mem distinct (Std.TreeMap.mem_toList_iff_getElem?_eq_some.2 held)
  | none =>
    rw [getD_foldl_write_of_forall_ne, Option.getD_none]
    · cases n <;> rfl
    · rintro ⟨exponent, c⟩ mem rfl
      rw [Std.TreeMap.mem_toList_iff_getElem?_eq_some.1 mem] at held
      cases held

/-- Within the vector a place holds what its exponent holds. -/
lemma getElem?_dense (h : n < merged.places) : merged.dense[n]? = some (merged.getD n 0.0) := by
  rw [← length_dense] at h
  rw [← getD_dense, List.getD_eq_getElem?_getD, List.getElem?_eq_getElem h, Option.getD_some]

/-- The dense vector, written place by place. -/
lemma dense_eq (merged : MergedTerms) :
    merged.dense = (List.range merged.places).map fun exponent => merged.getD exponent 0.0 := by
  refine List.ext_getElem ?_ fun n hn _ => ?_
  · rw [length_dense, List.length_map, List.length_range]
  · rw [List.getElem_map, List.getElem_range, ← getD_dense, List.getD_eq_getElem?_getD,
      List.getElem?_eq_getElem hn, Option.getD_some]

/-! ## Terms that overwrite each other -/

/-- One more term overwrites what its exponent holds. -/
lemma getElem?_add_overwrite :
    (merged.add .overwrite term)[n]? =
      if term.exponent = n then some term.coefficient else merged[n]? := by
  unfold add
  split
  · next negative =>
    have : term.exponent ≠ n := by omega
    rw [if_neg this]
  · next natural =>
    have : term.exponent.toNat = n ↔ term.exponent = n := by omega
    simp only [Std.TreeMap.getElem?_insert, Nat.compare_eq_eq, this]

/-- An exponent holds the coefficient of the last term that has it, or what it held before. -/
lemma getElem?_foldl_add_overwrite :
    (terms.foldl (add .overwrite) merged)[n]? =
      ((terms.reverse.find? fun term => term.exponent = (n : Int)).map Term.coefficient).or merged[n]? := by
  induction terms generalizing merged with
  | nil => simp
  | cons term terms ih =>
    rw [List.foldl_cons, ih, getElem?_add_overwrite, List.reverse_cons, List.find?_append]
    cases terms.reverse.find? fun term => term.exponent = (n : Int) with
    | some last => rfl
    | none => by_cases h : term.exponent = n <;> simp [h]

/-- An exponent holds the coefficient of the last term that has it. -/
lemma getElem?_ofTerms_overwrite :
    (ofTerms .overwrite terms)[n]? =
      (terms.reverse.find? fun term => term.exponent = (n : Int)).map Term.coefficient := by
  rw [ofTerms, getElem?_foldl_add_overwrite]
  simp

/-- Where no exponent occurs twice, an exponent holds the coefficient of the term that has it. -/
lemma getElem?_ofTerms_of_mem (distinct : (terms.map Term.exponent).Nodup)
    (h : term ∈ terms) (hn : term.exponent = n) :
    (ofTerms .overwrite terms)[n]? = some term.coefficient := by
  rw [getElem?_ofTerms_overwrite]
  cases found : terms.reverse.find? fun term => term.exponent = (n : Int) with
  | none =>
    have := List.find?_eq_none.1 found term (List.mem_reverse.2 h)
    simp [hn] at this
  | some last =>
    have same : last.exponent = n := by simpa using List.find?_some found
    have mem := List.mem_reverse.1 (List.mem_of_find?_eq_some found)
    rw [List.inj_on_of_nodup_map distinct mem h (same.trans hn.symm), Option.map_some]

end PolySurvey.MergedTerms
