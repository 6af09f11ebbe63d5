import PolySurvey.Proofs.Scan.Detection
import PolySurvey.Proofs.Scan.Termination

/-!
# Scans of parts of a domain

A scan that stops at one of its samples, and another that starts there, visit the samples of the
scan through both. So each zero bracket of the whole lies in one of the parts, and so does each extreme
bracket but the one around the common sample, which has a neighbour in either part. A scan that
stops earlier finds the first brackets of the longer one.
-/

namespace PolySurvey

open Number

namespace Bracket

variable (step : Float) (a b : Sample) (before rest : List Sample)

/-! ## Brackets of a list that is cut at a sample -/

/-- What follows a sample does not change which sample comes first. -/
lemma head?_append_cons : (before ++ b :: rest).head? = (before ++ [b]).head? := by
  cases before <;> rfl

/-- A pair of neighbours lies on one side of the cut. -/
lemma ofPairs_append :
    ofPairs (before ++ b :: rest) = ofPairs (before ++ [b]) ++ ofPairs (b :: rest) := by
  induction before with
  | nil => rfl
  | cons a before ih =>
    rw [List.cons_append, List.cons_append, ofPairs_cons, ofPairs_cons, head?_append_cons, ih,
      List.append_assoc]

/-- Three neighbours lie on one side of the cut, unless the cut is at the one in the middle. -/
lemma ofTriples_append : ofTriples step (before ++ b :: rest) =
    ofTriples step (before ++ [b]) ++
      (before.getLast?.bind fun a => rest.head?.bind (ofTriple? step a b)).toList ++
      ofTriples step (b :: rest) := by
  induction before with
  | nil => rfl
  | cons a before ih =>
    cases before with
    | nil => rw [List.singleton_append, ofTriples_cons_cons]; rfl
    | cons c before =>
      simp only [List.cons_append] at ih ⊢
      rw [ofTriples_cons_cons, ofTriples_cons_cons, head?_append_cons, ih, List.getLast?_cons_cons]
      simp only [List.append_assoc]

variable {samples : List Sample} {k : Nat}

/-- A list that is cut at one of its samples, which is the last of the front and the first of the
back. -/
lemma take_succ_and_drop (h : samples[k]? = some b) : samples.take (k + 1) = samples.take k ++ [b] ∧
    samples.drop k = b :: samples.drop (k + 1) := by
  rw [List.take_add_one, List.drop_eq_getElem?_toList_append, h]
  exact ⟨rfl, rfl⟩

/-- The zero brackets of a list are those of its front and its back. -/
lemma ofPairs_cut (h : samples[k]? = some b) :
    ofPairs samples = ofPairs (samples.take (k + 1)) ++ ofPairs (samples.drop k) := by
  obtain ⟨front, back⟩ := take_succ_and_drop b h
  rw [front, back, ← ofPairs_append, ← back, List.take_append_drop]

/-- The extreme brackets of a list are those of its front and its back, and the one around the sample at
the cut. -/
lemma ofTriples_cut (h : samples[k]? = some b) : ofTriples step samples =
    ofTriples step (samples.take (k + 1)) ++
      ((samples.take k).getLast?.bind fun a => samples[k + 1]?.bind (ofTriple? step a b)).toList ++
      ofTriples step (samples.drop k) := by
  obtain ⟨front, back⟩ := take_succ_and_drop b h
  rw [front, back, ← List.head?_drop, ← ofTriples_append, ← back, List.take_append_drop]

/-- What is found among the first samples comes first, if that is so at each of the samples. -/
lemma isPrefix_take {find : List Sample → List Bracket} (none : find [] = [])
    (cut : ∀ k b, samples[k]? = some b → find (samples.take (k + 1)) <+: find samples) (n : Nat) :
    find (samples.take n) <+: find samples := by
  cases n with
  | zero =>
    rw [List.take_zero, none]
    exact List.nil_prefix
  | succ k =>
    rcases Nat.lt_or_ge k samples.length with inside | beyond
    · exact cut k samples[k] (List.getElem?_eq_getElem inside)
    · rw [List.take_of_length_le (by omega)]

/-- The zero brackets of the first samples come first. -/
lemma ofPairs_take (samples : List Sample) (n : Nat) :
    ofPairs (samples.take n) <+: ofPairs samples :=
  isPrefix_take rfl (fun _ b h => ⟨_, (ofPairs_cut b h).symm⟩) n

/-- The extreme brackets of the first samples come first. -/
lemma ofTriples_take (samples : List Sample) (n : Nat) :
    ofTriples step (samples.take n) <+: ofTriples step samples := by
  refine isPrefix_take rfl (fun k b h => ?_) n
  rw [ofTriples_cut step b h, List.append_assoc]
  exact List.prefix_append _ _

end Bracket

namespace Domain

variable {d : Domain} {k : Nat} {m stop : Float}

/-! ## Samples of a part -/

/-- A walk that ends visits the abscissas that are counted up to the end of the domain. -/
lemma samples_of_ends (valid : d.isValid = true) (ends : d.Ends) :
    d.samples = (List.range d.sampleCount).map d.cursor ∧
      ∀ k, d.cursor k ≤ d.stop ↔ k < d.sampleCount := by
  have h := checked_of_isValid valid
  exact h.samples_of_not_stalls valid (h.ends_iff.1 ends)

/-- A walk that starts at an abscissa of another goes on as that one does. -/
lemma cursor_start (k n : Nat) : { d with start := d.cursor k }.cursor n = d.cursor (k + n) := by
  induction n with
  | zero => rfl
  | succ n ih => rw [← Nat.add_assoc, cursor_succ, cursor_succ, ih]

/-- A walk that ends would have ended below as well. -/
lemma Ends.stop_le (ends : d.Ends) (le : stop ≤ d.stop) : { d with stop }.Ends := by
  obtain ⟨n, past⟩ := ends
  exact ⟨n, fun within => past (le_of_le_of_le within le)⟩

/-- A scan with an earlier end visits the first samples of the longer one. -/
lemma samples_stop (valid : d.isValid = true) (ends : d.Ends) (le : stop ≤ d.stop)
    (valid' : { d with stop }.isValid = true) :
    { d with stop }.samples = d.samples.take { d with stop }.sampleCount := by
  obtain ⟨samples, within⟩ := samples_of_ends valid ends
  obtain ⟨samples', within'⟩ := samples_of_ends valid' (ends.stop_le le)
  have fewer : { d with stop }.sampleCount ≤ d.sampleCount := by
    by_contra more
    have last : d.cursor d.sampleCount ≤ stop := (within' d.sampleCount).2 (by omega)
    exact absurd ((within d.sampleCount).1 (le_of_le_of_le last le)) (Nat.lt_irrefl _)
  rw [samples', samples, ← List.map_take, List.take_range, Nat.min_eq_left fewer]
  rfl

section

variable (valid : d.isValid = true) (ends : d.Ends)

include valid ends

/-- A walk that starts at an abscissa of one that ends does so too. -/
lemma ends_start_cursor (k : Nat) : { d with start := d.cursor k }.Ends := by
  obtain ⟨_, within⟩ := samples_of_ends valid ends
  refine ⟨d.sampleCount, fun last => ?_⟩
  rw [cursor_start] at last
  exact absurd ((within _).1 last) (by omega)

/-- A sample of a scan is one of its abscissas. -/
lemma cursor_of_samples (hm : d.samples[k]? = some m) : d.cursor k = m ∧ d.cursor k ≤ d.stop := by
  obtain ⟨samples, within⟩ := samples_of_ends valid ends
  have inside : k < d.sampleCount := (List.getElem?_eq_some_iff.1 hm).1
  rw [samples, List.getElem?_map, List.getElem?_range inside] at hm
  exact ⟨Option.some.inj hm, (within k).2 inside⟩

variable (hk : d.cursor k ≤ d.stop)

include hk

/-- A scan that stops at an abscissa visits that abscissa and those before it. -/
lemma samples_stop_cursor (valid' : { d with stop := d.cursor k }.isValid = true) :
    { d with stop := d.cursor k }.samples = d.samples.take (k + 1) := by
  obtain ⟨_, within⟩ := samples_of_ends valid' (ends.stop_le hk)
  have h := checked_of_isValid valid
  have ascends := h.ascends_iff.2 (h.ends_iff.1 ends)
  have self := (within k).1 (le_self_of_le hk)
  have next : ¬ k + 1 < { d with stop := d.cursor k }.sampleCount :=
    fun more => not_le_of_less (ascends k hk) ((within (k + 1)).2 more)
  rw [samples_stop valid ends hk valid']
  congr 1
  omega

/-- A scan that starts at an abscissa visits that abscissa and those after it. -/
lemma samples_start_cursor (valid' : { d with start := d.cursor k }.isValid = true) :
    { d with start := d.cursor k }.samples = d.samples.drop k := by
  obtain ⟨samples, within⟩ := samples_of_ends valid ends
  obtain ⟨samples', within'⟩ := samples_of_ends valid' (ends_start_cursor valid ends k)
  have same : ∀ n, k + n < d.sampleCount ↔ n < { d with start := d.cursor k }.sampleCount := by
    intro n
    rw [← within, ← within', cursor_start]
  have count : { d with start := d.cursor k }.sampleCount = d.sampleCount - k := by
    have inside := (within k).1 hk
    have last := same (d.sampleCount - k)
    have first := same { d with start := d.cursor k }.sampleCount
    omega
  have rest : (List.range d.sampleCount).drop k =
      (List.range (d.sampleCount - k)).map (k + ·) := by
    rw [List.range_eq_range', List.drop_range', ← List.range'_eq_map_range]
    simp
  rw [samples', samples, count, ← List.map_drop, rest, List.map_map]
  exact List.map_congr_left fun n _ => cursor_start k n

end

end Domain

namespace Curve

/-- The extreme bracket around one of the samples of a scan, if that sample lies between two others
and the slopes on its two sides have a product of at most zero. -/
def extremeBracketAt? (curve : Curve) (d : Domain) : Nat → Option Bracket
  | 0 => none
  | k + 1 => do
    let x ← d.samples[k]?
    let y ← d.samples[k + 1]?
    let z ← d.samples[k + 2]?
    if curve.stepSlope d.step x y * curve.stepSlope d.step y z ≤ 0.0 then some ⟨x, z, y⟩ else none

variable {curve : Curve} {d : Domain} {k : Nat} {m : Float}

/-- The bracket around a sample is that of the last sample before it and the first one after it. -/
lemma extremeBracketAt?_eq (hm : d.samples[k]? = some m) : curve.extremeBracketAt? d k =
    ((curve.samples d).take k).getLast?.bind fun a => (curve.samples d)[k + 1]?.bind
      (Bracket.ofTriple? d.step a ⟨m, curve.value m⟩) := by
  cases k with
  | zero => rfl
  | succ k =>
    have inside : k < d.samples.length := by
      have := (List.getElem?_eq_some_iff.1 hm).1
      omega
    have last : ((curve.samples d).take (k + 1)).getLast? =
        some ⟨d.samples[k], curve.value d.samples[k]⟩ := by
      simp [samples, List.getLast?_take, inside]
    rw [last, samples, List.getElem?_map]
    simp only [extremeBracketAt?, hm, List.getElem?_eq_getElem inside]
    cases d.samples[k + 2]? <;> rfl

/-- The brackets of a scan that ends are those of the scan up to one of its samples and those of the
scan from there on; between them stands the extreme bracket around that sample, if there is one. The
brackets of a scan with an earlier end are the first ones. -/
theorem brackets_of_parts (curve : Curve) (d : Domain) (valid : d.isValid = true)
    (ends : d.Ends) :
    (∀ k m, d.samples[k]? = some m →
      let before : Domain := { d with stop := m }
      let after : Domain := { d with start := m }
      before.isValid = true → after.isValid = true → before.Ends ∧ after.Ends ∧
        curve.zeroBrackets d = curve.zeroBrackets before ++ curve.zeroBrackets after ∧
        curve.extremeBrackets d = curve.extremeBrackets before ++
          (curve.extremeBracketAt? d k).toList ++ curve.extremeBrackets after) ∧
      ∀ stop ≤ d.stop,
        let shorter : Domain := { d with stop }
        shorter.isValid = true → shorter.Ends ∧
          curve.zeroBrackets shorter <+: curve.zeroBrackets d ∧
          curve.extremeBrackets shorter <+: curve.extremeBrackets d := by
  constructor
  · intro k m hm before after valid' valid''
    obtain ⟨rfl, hk⟩ := Domain.cursor_of_samples valid ends hm
    -- The samples of the parts are a front and a back of the samples of the whole, with the cut in
    -- both.
    have front : curve.samples before = (curve.samples d).take (k + 1) := by
      rw [samples, Domain.samples_stop_cursor valid ends hk valid', List.map_take, samples]
    have back : curve.samples after = (curve.samples d).drop k := by
      rw [samples, Domain.samples_start_cursor valid ends hk valid'', List.map_drop, samples]
    have here : (curve.samples d)[k]? = some ⟨d.cursor k, curve.value (d.cursor k)⟩ := by
      rw [samples, List.getElem?_map, hm]
      rfl
    refine ⟨ends.stop_le hk, Domain.ends_start_cursor valid ends k, ?_, ?_⟩
    · rw [zeroBrackets, zeroBrackets, zeroBrackets, front, back]
      exact Bracket.ofPairs_cut _ here
    · rw [extremeBrackets, extremeBrackets, extremeBrackets, front, back, extremeBracketAt?_eq hm]
      exact Bracket.ofTriples_cut d.step _ here
  · intro stop le shorter valid'
    have first : curve.samples shorter = (curve.samples d).take shorter.sampleCount := by
      rw [samples, Domain.samples_stop valid ends le valid', List.map_take, samples]
    refine ⟨ends.stop_le le, ?_, ?_⟩
    · rw [zeroBrackets, zeroBrackets, first]
      exact Bracket.ofPairs_take _ _
    · rw [extremeBrackets, extremeBrackets, first]
      exact Bracket.ofTriples_take d.step _ _

/-- The extreme point of `x ^ 2 - x` is the sample at which the unit interval is cut. -/
theorem brackets_of_parts_parabola :
    let curve := (Polynomial.ofCoefficients [0.0, -1.0, 1.0]).curve
    let d : Domain := ⟨0.0, 1.0, 0.5⟩
    let before : Domain := ⟨0.0, 0.5, 0.5⟩
    let after : Domain := ⟨0.5, 1.0, 0.5⟩
    d.isValid = true ∧ d.Ends ∧ d.samples[1]? = some 0.5 ∧ before.isValid = true ∧
      after.isValid = true ∧ before.stop ≤ d.stop ∧
      curve.zeroBrackets d = curve.zeroBrackets before ++ curve.zeroBrackets after ∧
      curve.extremeBrackets d =
        curve.extremeBrackets before ++ [⟨0.0, 1.0, 0.5⟩] ++ curve.extremeBrackets after ∧
      curve.zeroBrackets before <+: curve.zeroBrackets d := by
  intro curve d before after
  have valid : d.isValid = true := by decide +kernel
  have ends : d.Ends := ⟨3, by decide +kernel⟩
  have middle : d.samples[1]? = some 0.5 := by rw [samples_unitHalves]; rfl
  have valid' : before.isValid = true := by decide +kernel
  have valid'' : after.isValid = true := by decide +kernel
  have around : curve.extremeBracketAt? d 1 = some ⟨0.0, 1.0, 0.5⟩ := by
    simp only [extremeBracketAt?, d, samples_unitHalves]
    decide +kernel
  obtain ⟨parts, shorter⟩ := brackets_of_parts curve d valid ends
  obtain ⟨_, _, zeros, extremes⟩ := parts 1 0.5 middle valid' valid''
  have earlier : before.stop ≤ d.stop := by decide +kernel
  obtain ⟨_, first, _⟩ := shorter 0.5 earlier valid'
  rw [around] at extremes
  exact ⟨valid, ends, middle, valid', valid'', earlier, zeros, extremes, first⟩

end Curve

end PolySurvey
