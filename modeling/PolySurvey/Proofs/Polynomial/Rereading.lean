import PolySurvey.Proofs.Polynomial.Degree
import PolySurvey.Proofs.Term.Decimal
import PolySurvey.Proofs.Term.Expression
import PolySurvey.Proofs.Term.Fault

/-!
# Reading canonical text

Canonical text is read term by term, whatever its coefficients are. The text of a finite coefficient
is a decimal, so with its power it is read as one term. NaN and the infinities are written as words; no
term starts in such a word or at the sign before it, so the power after it is read as if no coefficient
was written, and without a power nothing is read. What every term but the first starts with carries no
term on, so the whole text is read as the terms of its parts, by induction on the terms. Their exponents
are distinct, so nothing is merged, and the last of them is the degree.
-/

namespace PolySurvey

open Number

/-- The double that is read from the two decimal places of a double. -/
def fixedValue (x : Float) : Float := (readFraction (fixed x)).toOption.getD 0.0

/-- The text of a finite double is read as the double of its two decimal places. -/
lemma readFraction_fixed {x : Float} (h : x.isFinite = true) :
    readFraction (fixed x) = .ok (fixedValue x) := by
  obtain ⟨y, hy⟩ := (isDecimal_fixed h).exists_readFraction
  rw [fixedValue, hy]
  rfl

/-! ## Terms that stand in a text -/

/-- Wherever the text stands, it is read as the terms, if what follows does not carry a term on. -/
def ReadsTerms (text : List Char) (terms : List Term) : Prop :=
  ∀ rest, EndsTerm rest → readTerms (text ++ rest) = (terms ++ ·) <$> readTerms rest

/-- The digits of a number. -/
def digitsOf (n : Nat) : Digits :=
  ⟨Nat.toDigits 10 n, Nat.toDigits_ne_nil, fun _ hc =>
    Nat.isDigit_of_mem_toDigits (by decide) (by decide) hc⟩

/-- The digits of a number are read as the number. -/
lemma natOfDigits_digitsOf (n : Nat) : natOfDigits (digitsOf n).chars = n :=
  Nat.ofDigitChars_ten_toDigits

/-- The text of a power, nothing for the constant. -/
def powerText (n : Nat) : List Char := if n = 0 then [] else 'x' :: '^' :: Nat.toDigits 10 n

section

variable {n : Nat} (bound : n ≤ maxExponent)

include bound

/-- A coefficient, if there is one, before a power of x. -/
lemma readsTerms_power (coefficient : Option Literal) (sign : LeadSign) :
    let u : Unsigned :=
      .power coefficient (some ⟨false, digitsOf n, (natOfDigits_digitsOf n).trans_le bound⟩)
    ReadsTerms (sign.text ++ Unsigned.coefficientText coefficient ++ 'x' :: '^' :: Nat.toDigits 10 n)
      [⟨u.coefficient sign, n⟩] := by
  intro u rest h
  have exponent : u.exponent = n := natOfDigits_digitsOf n
  have read := u.readTerms_text_append sign h
  rw [exponent] at read
  rw [List.append_assoc sign.text]
  exact read

/-- A decimal with a power, or without one, is read as one term. -/
lemma IsDecimal.readsTerms {cs : List Char} (h : IsDecimal cs) {x : Float}
    (hx : readFraction cs = .ok x) : ReadsTerms (cs ++ powerText n) [⟨x, n⟩] := by
  obtain ⟨sign, l, rfl⟩ := h.exists_literal
  obtain rfl := Except.ok.inj ((l.readFraction_text sign).symm.trans hx)
  unfold powerText
  by_cases constant : n = 0
  · subst constant
    rw [if_pos rfl, List.append_nil]
    intro rest h
    exact (Unsigned.constant l).readTerms_text_append sign h
  · rw [if_neg constant]
    exact readsTerms_power bound (some l) sign

end

/-! ## Words -/

/-- The text of a double that is not finite is a word, perhaps with a sign. -/
lemma fixed_of_not_isFinite {x : Float} (h : x.isFinite = false) :
    fixed x = ['N', 'a', 'N'] ∨ fixed x = ['i', 'n', 'f'] ∨ fixed x = ['-', 'i', 'n', 'f'] := by
  have infinite : x.toModel.unpack.isFinite = false := h
  unfold fixed
  cases hx : x.toModel.unpack with
  | notANumber => exact .inl rfl
  | infinity s =>
    cases s with
    | positive => exact .inr (.inl rfl)
    | negative => exact .inr (.inr rfl)
  | zero s => simp [hx, Float.Model.UnpackedFloat.isFinite] at infinite
  | finite s m e => simp [hx, Float.Model.UnpackedFloat.isFinite] at infinite

/-- No term starts at a letter of a word. -/
lemma readTerms_letter {c : Char} (h : c ∈ ['N', 'a', 'i', 'n', 'f']) (cs : List Char) :
    readTerms (c :: cs) = readTerms cs := by
  have lead : Part.lead.Takes [] (c :: cs) := by
    fin_cases h <;> rfl
  have ends : EndsTerm (c :: cs) := by
    fin_cases h <;> exact .cons (by decide) (by decide) cs
  have cut := WrittenTerm.cut?_eq_none lead ends.toEndsLiteral ends.x
  exact readTerms_of_cut?_eq_none cut

/-- The letters of the texts `NaN` and `inf` are passed over. -/
lemma readTerms_word {word : List Char} (h : word ⊆ ['N', 'a', 'i', 'n', 'f']) (cs : List Char) :
    readTerms (word ++ cs) = readTerms cs := by
  induction word with
  | nil => rfl
  | cons c word ih =>
    obtain ⟨letter, rest⟩ := List.cons_subset.1 h
    exact (readTerms_letter letter _).trans (ih rest)

/-- No term starts at a sign with a word after it. -/
lemma readTerms_sign {s c : Char} (sign : s = '+' ∨ s = '-') (h : c ∈ ['N', 'i', '-'])
    (cs : List Char) : readTerms (s :: c :: cs) = readTerms (c :: cs) := by
  have lead : Part.lead.Takes [s] (c :: cs) := by
    rcases sign with rfl | rfl <;> fin_cases h <;> rfl
  have ends : EndsTerm (c :: cs) := by
    fin_cases h <;> exact .cons (by decide) (by decide) cs
  have cut := WrittenTerm.cut?_eq_none lead ends.toEndsLiteral ends.x
  exact readTerms_of_cut?_eq_none cut

section

variable {x : Float} (h : x.isFinite = false)

include h

/-- The text of a double that is not finite is passed over. -/
lemma readTerms_fixed_append (cs : List Char) : readTerms (fixed x ++ cs) = readTerms cs := by
  have inf : readTerms (['i', 'n', 'f'] ++ cs) = readTerms cs := readTerms_word (by simp) cs
  rcases fixed_of_not_isFinite h with text | text | text <;> rw [text]
  · exact readTerms_word (by simp) cs
  · exact inf
  · exact (readTerms_sign (.inr rfl) (by simp) _).trans inf

/-- So it is with a plus sign before it. -/
lemma readTerms_plus_fixed_append (cs : List Char) :
    readTerms ('+' :: fixed x ++ cs) = readTerms cs := by
  have signed : readTerms ('+' :: fixed x ++ cs) = readTerms (fixed x ++ cs) := by
    rcases fixed_of_not_isFinite h with text | text | text <;> rw [text]
    · exact readTerms_sign (.inl rfl) (by simp) _
    · exact readTerms_sign (.inl rfl) (by simp) _
    · exact readTerms_sign (.inl rfl) (by simp) _
  exact signed.trans (readTerms_fixed_append h cs)

end

/-! ## The text of one term -/

namespace Coefficients

/-- The term that is read from the text of a term, if there is one. -/
def rereadTerm? (term : Float × Nat) : Option Term :=
  if term.1.isFinite then some ⟨fixedValue term.1, term.2⟩
  else if term.2 = 0 then none
  else some ⟨1.0, term.2⟩

/-- A term that canonical text may list. -/
structure Writable (term : Float × Nat) : Prop where
  nonzero : (term.1 == 0.0) = false
  /-- The exponent can be read. -/
  bound : term.2 ≤ maxExponent

variable {term : Float × Nat}

/-- Where the text of a coefficient is passed over, a power is read that has none. -/
lemma readsTerms_of_not_isFinite (h : term.1.isFinite = false) (bound : term.2 ≤ maxExponent)
    {word : List Char} (passed : ∀ cs, readTerms (word ++ cs) = readTerms cs) :
    ReadsTerms (word ++ powerText term.2) (rereadTerm? term).toList := by
  intro rest ends
  have infinite : ¬ term.1.isFinite = true := by simp [h]
  rw [List.append_assoc, passed, powerText, rereadTerm?, if_neg infinite]
  by_cases constant : term.2 = 0
  · rw [if_pos constant, if_pos constant]
    exact (id_map _).symm
  · rw [if_neg constant, if_neg constant]
    exact readsTerms_power bound none .absent rest ends

/-- The text of the first term is read back as one term, or as none. -/
lemma readsTerms_termText (bound : term.2 ≤ maxExponent) :
    ReadsTerms (termText term) (rereadTerm? term).toList := by
  by_cases finite : term.1.isFinite = true
  · rw [rereadTerm?, if_pos finite]
    exact (isDecimal_fixed finite).readsTerms bound (readFraction_fixed finite)
  · have infinite := Bool.eq_false_of_not_eq_true finite
    exact readsTerms_of_not_isFinite infinite bound (readTerms_fixed_append infinite)

/-- The text of a finite term that follows another one is a decimal with its sign, and a power. -/
lemma Writable.exists_laterTermText (h : Writable term) (finite : term.1.isFinite = true) :
    ∃ literal, laterTermText term = literal ++ powerText term.2 ∧ StartsWithSign literal ∧
      IsDecimal literal ∧ readFraction literal = readFraction (fixed term.1) := by
  have number := isNumber_of_isFinite finite
  have decimal := isDecimal_fixed finite
  unfold laterTermText
  -- Only a positive coefficient gets a sign from outside; that of a negative one is part of its own
  -- text.
  by_cases pos : term.1 > 0.0
  · obtain ⟨n, text⟩ := fixed_of_rank_pos finite ((zero_lt_iff_rank_pos number).1 pos)
    have plus : IsDecimal ('+' :: fixed term.1) := by
      rw [text]
      exact isDecimal_writeHundredths (.inr (.inl rfl)) n
    have unsigned : ¬ StartsWithSign (fixed term.1) := by
      rw [text]
      exact not_startsWithSign_writeHundredths n
    rw [if_pos pos]
    exact ⟨_, rfl, .inl rfl, plus, decimal.readFraction_plus unsigned⟩
  · have nonzero : rank term.1 ≠ 0 := by
      intro zero
      have := h.nonzero
      rw [(beq_zero_iff_rank_eq_zero number).2 zero] at this
      cases this
    have neg : rank term.1 < 0 := by
      have := mt (zero_lt_iff_rank_pos number).2 pos
      omega
    obtain ⟨n, text⟩ := fixed_of_rank_neg finite neg
    rw [if_neg pos]
    refine ⟨_, rfl, ?_, decimal, rfl⟩
    rw [text]
    exact .inr rfl

/-- So is that of a later term. -/
lemma Writable.readsTerms_laterTermText (h : Writable term) :
    ReadsTerms (laterTermText term) (rereadTerm? term).toList := by
  by_cases finite : term.1.isFinite = true
  · obtain ⟨literal, text, _, decimal, value⟩ := h.exists_laterTermText finite
    rw [text, rereadTerm?, if_pos finite]
    exact decimal.readsTerms h.bound (value.trans (readFraction_fixed finite))
  · have infinite := Bool.eq_false_of_not_eq_true finite
    unfold laterTermText
    split
    · exact readsTerms_of_not_isFinite infinite h.bound (readTerms_plus_fixed_append infinite)
    · exact readsTerms_of_not_isFinite infinite h.bound (readTerms_fixed_append infinite)

/-- A term that follows another one does not carry it on. -/
lemma Writable.endsTerm (h : Writable term) (rest : List Char) :
    EndsTerm (laterTermText term ++ rest) := by
  by_cases finite : term.1.isFinite = true
  · obtain ⟨literal, text, sign, _, _⟩ := h.exists_laterTermText finite
    obtain ⟨c, tail, rfl, hc⟩ := sign.exists_cons
    rw [text]
    rcases hc with rfl | rfl <;> exact .cons (by decide) (by decide) _
  · have text := fixed_of_not_isFinite (Bool.eq_false_of_not_eq_true finite)
    unfold laterTermText termText
    split
    · exact .cons (by decide) (by decide) _
    · rcases text with text | text | text <;> rw [text] <;> exact .cons (by decide) (by decide) _

/-! ## The text of all terms -/

/-- The texts of the later terms are read back one after the other. -/
lemma readTerms_flatMap_laterTermText {later : List (Float × Nat)}
    (writable : ∀ term ∈ later, Writable term) :
    readTerms (later.flatMap laterTermText) = .ok (later.filterMap rereadTerm?) ∧
      EndsTerm (later.flatMap laterTermText) := by
  induction later with
  | nil => exact ⟨readTerms_nil, .nil⟩
  | cons term later ih =>
    obtain ⟨h, rest⟩ := List.forall_mem_cons.1 writable
    obtain ⟨read, ends⟩ := ih rest
    refine ⟨?_, h.endsTerm _⟩
    rw [List.flatMap_cons, h.readsTerms_laterTermText _ ends, read, List.filterMap_cons]
    cases rereadTerm? term <;> rfl

/-- Canonical text is read as the terms that it lists. -/
lemma readTerms_canonical {cs : List Float} (writable : ∀ term ∈ descendingTerms cs, Writable term) :
    readTerms (canonical cs) = .ok ((descendingTerms cs).filterMap rereadTerm?) := by
  unfold canonical
  cases terms : descendingTerms cs with
  | nil => exact readTerms_nil
  | cons first later =>
    rw [terms] at writable
    obtain ⟨h, rest⟩ := List.forall_mem_cons.1 writable
    obtain ⟨read, ends⟩ := readTerms_flatMap_laterTermText rest
    rw [readsTerms_termText h.bound _ ends, read, List.filterMap_cons]
    cases rereadTerm? first <;> rfl

/-! ## The coefficients read back -/

/-- The terms read back from canonical text, gathered by their exponents. -/
def rereadMerged (cs : List Float) : MergedTerms :=
  .ofTerms .overwrite ((descendingTerms cs).filterMap rereadTerm?)

/-- The coefficient that is read back at an exponent: that of the term, if there is one. -/
def rereadAt (n : Nat) (c : Float) : Float :=
  if c == 0.0 then 0.0 else ((rereadTerm? (c, n)).map Term.coefficient).getD 0.0

section

variable {cs : List Float} {term : Float × Nat} {t : Term} {n : Nat} {c : Float}

/-- A term that is read back has its exponent. -/
lemma exponent_of_rereadTerm? (h : rereadTerm? term = some t) : t.exponent = term.2 := by
  unfold rereadTerm? at h
  split at h
  · cases h
    rfl
  · split at h
    · cases h
    · cases h
      rfl

/-- A power is read back in any case. -/
lemma exists_rereadTerm? (h : term.2 ≠ 0) : ∃ t, rereadTerm? term = some t := by
  unfold rereadTerm?
  split
  · exact ⟨_, rfl⟩
  · exact ⟨_, rfl⟩

/-- No exponent is read back twice. -/
lemma nodup_exponents_reread (cs : List Float) :
    (((descendingTerms cs).filterMap rereadTerm?).map Term.exponent).Nodup := by
  rw [List.Nodup, List.pairwise_map, List.pairwise_filterMap]
  refine (List.pairwise_map.1 (nodup_exponents cs)).imp fun distinct t ht u hu same => distinct ?_
  rw [exponent_of_rereadTerm? ht, exponent_of_rereadTerm? hu] at same
  exact Int.ofNat.inj same

/-- The exponents that are read back are those of the terms, except for a constant that is lost. -/
lemma mem_rereadMerged : n ∈ rereadMerged cs ↔
    ∃ c, cs[n]? = some c ∧ (c == 0.0) = false ∧ ∃ t, rereadTerm? (c, n) = some t := by
  rw [rereadMerged, MergedTerms.mem_ofTerms]
  simp only [List.mem_filterMap]
  constructor
  · rintro ⟨t, ⟨term, listed, read⟩, hn⟩
    obtain rfl : term.2 = n := Int.ofNat.inj ((exponent_of_rereadTerm? read).symm.trans hn)
    exact ⟨term.1, (mem_descendingTerms.1 listed).1, (mem_descendingTerms.1 listed).2, t, read⟩
  · rintro ⟨c, hc, nonzero, t, read⟩
    exact ⟨t, ⟨(c, n), mem_descendingTerms.2 ⟨hc, nonzero⟩, read⟩, exponent_of_rereadTerm? read⟩

/-- There are as many places as the degree asks for: only a constant may be lost. -/
lemma places_rereadMerged (cs : List Float) : (rereadMerged cs).places = degree cs + 1 := by
  refine eq_of_forall_lt_iff fun n => ?_
  rw [MergedTerms.lt_places, Nat.lt_succ_iff, le_degree_iff]
  refine or_congr_right' fun pos => exists_congr fun exponent => and_congr_left fun le => ?_
  rw [mem_rereadMerged]
  constructor
  · rintro ⟨c, hc, nonzero, _⟩
    exact ⟨c, hc, nonzero⟩
  · rintro ⟨c, hc, nonzero⟩
    exact ⟨c, hc, nonzero, exists_rereadTerm? (show exponent ≠ 0 by omega)⟩

/-- What an exponent holds after reading back. -/
lemma getD_rereadMerged (h : cs[n]? = some c) : (rereadMerged cs).getD n 0.0 = rereadAt n c := by
  unfold rereadAt
  by_cases mem : n ∈ rereadMerged cs
  · obtain ⟨d, hd, nonzero, t, read⟩ := mem_rereadMerged.1 mem
    obtain rfl := Option.some.inj (h.symm.trans hd)
    have listed : (c, n) ∈ descendingTerms cs := mem_descendingTerms.2 ⟨h, nonzero⟩
    have merged := MergedTerms.getElem?_ofTerms_of_mem (nodup_exponents_reread cs)
      (List.mem_filterMap.2 ⟨_, listed, read⟩) (exponent_of_rereadTerm? read)
    rw [if_neg (by simp [nonzero]), read, Std.TreeMap.getD_eq_getD_getElem?, rereadMerged, merged]
    rfl
  · rw [Std.TreeMap.getD_eq_fallback mem]
    split
    · rfl
    · next nonzero =>
      cases read : rereadTerm? (c, n) with
      | none => rfl
      | some t => exact absurd (mem_rereadMerged.2 ⟨c, h, by simpa using nonzero, t, read⟩) mem

end

/-- The dense vector of the terms read back: the coefficients up to the degree, each read back. -/
lemma dense_rereadMerged {cs : List Float} (h : cs ≠ []) :
    (rereadMerged cs).dense = (cs.take (degree cs + 1)).mapIdx rereadAt := by
  have places := places_rereadMerged cs
  have inside := degree_lt_length h
  apply List.ext_getElem
  · rw [MergedTerms.length_dense, places, List.length_mapIdx, List.length_take]
    omega
  · intro n hn hn'
    rw [MergedTerms.length_dense] at hn
    have hc : cs[n]? = some cs[n] := List.getElem?_eq_getElem (by omega)
    apply Option.some.inj
    rw [← List.getElem?_eq_getElem, MergedTerms.getElem?_dense hn, getD_rereadMerged hc,
      List.getElem_mapIdx, List.getElem_take]

/-- Where the degree is not beyond the largest exponent, all terms can be written. -/
lemma writable_of_degree_le {cs : List Float} (bound : degree cs ≤ maxExponent) :
    ∀ term ∈ descendingTerms cs, Writable term := by
  intro term listed
  have occurs := mem_descendingTerms.1 listed
  have le := le_degree_iff.2 (.inr ⟨term.2, ⟨term.1, occurs⟩, Nat.le_refl _⟩)
  exact ⟨occurs.2, Nat.le_trans le bound⟩

end Coefficients

/-- Canonical text is read as the coefficients up to the degree, each of them read back. -/
lemma Polynomial.exists_parse_canonical {cs : List Float} (nonempty : cs ≠ [])
    (bound : Coefficients.degree cs ≤ maxExponent) :
    ∃ q, parse (String.ofList (Coefficients.canonical cs)) .overwrite = .ok q ∧
      q.coefficients = (cs.take (Coefficients.degree cs + 1)).mapIdx Coefficients.rereadAt := by
  have read := Coefficients.readTerms_canonical (Coefficients.writable_of_degree_le bound)
  obtain ⟨q, parse, dense⟩ := exists_parse_of_readTerms read .overwrite
  exact ⟨q, parse, dense.trans (Coefficients.dense_rereadMerged nonempty)⟩

end PolySurvey
