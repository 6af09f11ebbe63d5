import PolySurvey.Proofs.Document.Remark
import PolySurvey.Proofs.Term.Parts

/-!
# Lists of values

A list of values is texts of values with commas between them, and spaces and tabs around the commas
(`Listed`). It is read as these texts, whatever follows that does not carry it on.
-/

namespace PolySurvey

open Text Grammar

/-- The text of one value. -/
structure IsValueText (t : List Char) : Prop where
  ne_nil : t ≠ []
  chars : ∀ c ∈ t, isValueChar c = true

/-- Texts of values with commas between them, and spaces and tabs around the commas. -/
inductive Listed : List (List Char) → List Char → Prop where
  | single {t : List Char} : IsValueText t → Listed [t] t
  | cons {t before after list : List Char} {ts : List (List Char)} :
    IsValueText t → (∀ c ∈ before, isGap c = true) → (∀ c ∈ after, isGap c = true) →
    Listed ts list → Listed (t :: ts) (t ++ (before ++ ',' :: (after ++ list)))

/-- The field that is read after a colon, and what follows it, trimmed of blanks. -/
def Grammar.fieldOf (cs : List Char) : Field × List Char :=
  let text := skipGap cs
  (⟨String.ofList (trim (before text (values text).2)), (values text).1⟩, trim (values text).2)

/-- The characters of values, and those of what stands between them. -/
def isPairChar (c : Char) : Bool := isValueChar c || isGap c || c = ','

/-- What may stand in a value may stand in a pair. -/
lemma isPairChar_of_isValueChar {c : Char} (h : isValueChar c = true) : isPairChar c = true := by
  rw [isPairChar, h]
  rfl

/-- Gaps may stand in a pair. -/
lemma isPairChar_of_isGap {c : Char} (h : isGap c = true) : isPairChar c = true := by
  rw [isPairChar, h, Bool.or_true]
  rfl

/-- Gaps may not stand in a value. -/
lemma isValueChar_of_isGap {c : Char} (h : isGap c = true) : isValueChar c = false := by
  simp only [isGap, Bool.or_eq_true, decide_eq_true_eq] at h
  rcases h with rfl | rfl <;> rfl

section

variable {gap rest : List Char}

/-- A gap is blank. -/
lemma isBlank_of_mem_gap (hg : ∀ c ∈ gap, isGap c = true) : ∀ c ∈ gap, isBlank c = true :=
  fun c hc => isBlank_of_isGap (hg c hc)

/-- A gap is skipped up to the first character that belongs to none. -/
lemma skipGap_append (hg : ∀ c ∈ gap, isGap c = true) (stop : ∀ c ∈ rest.head?, isGap c = false) :
    skipGap (gap ++ rest) = rest :=
  (Prod.mk.inj (Part.run_takes hg stop)).2

/-- What may follow gaps alone may also follow them where no gap goes on. -/
lemma head_gap_append {kind : Char → Bool} (hg : ∀ c ∈ gap, isGap c = true)
    (gaps : ∀ c, isGap c = true → kind c = false) (stop : ∀ c ∈ rest.head?, kind c = false) :
    ∀ c ∈ (gap ++ rest).head?, kind c = false := by
  cases gap with
  | nil => exact stop
  | cons c gap =>
    rintro _ ⟨⟩
    exact gaps c (hg c (List.mem_cons_self ..))

end

namespace IsValueText

variable {t rest : List Char}

/-- The text of a value has no gap. -/
lemma not_isGap (ht : IsValueText t) : ∀ c ∈ t, isGap c = false := fun c hc =>
  Bool.eq_false_iff.2 fun gap => ne_of_kind (ht.chars c hc) (isValueChar_of_isGap gap) rfl

/-- A text that begins with a value does not begin with a gap. -/
lemma head_not_isGap (ht : IsValueText t) (rest : List Char) :
    ∀ c ∈ (t ++ rest).head?, isGap c = false := by
  cases t with
  | nil => exact absurd rfl ht.ne_nil
  | cons c t =>
    rintro _ ⟨⟩
    exact ht.not_isGap c (List.mem_cons_self ..)

/-- The text of a value is read as far as it goes. -/
lemma valueText_append (ht : IsValueText t) (stop : ∀ c ∈ rest.head?, isValueChar c = false) :
    valueText (t ++ rest) = .ok (t, rest) := by
  obtain ⟨taken, left⟩ := Prod.mk.inj (Part.run_takes ht.chars stop)
  rw [valueText, taken, left, if_neg ht.ne_nil]

/-- A later value is read with its comma and the gaps around it. -/
lemma laterValueText_append (ht : IsValueText t) {before after : List Char}
    (gapBefore : ∀ c ∈ before, isGap c = true) (gapAfter : ∀ c ∈ after, isGap c = true)
    (stop : ∀ c ∈ rest.head?, isValueChar c = false) :
    laterValueText (before ++ ',' :: (after ++ (t ++ rest))) = .ok (t, rest) := by
  have comma : skipGap (before ++ ',' :: (after ++ (t ++ rest))) = ',' :: (after ++ (t ++ rest)) := by
    apply skipGap_append gapBefore
    rintro _ ⟨⟩
    rfl
  rw [laterValueText, comma]
  simp only [skipGap_append gapAfter (ht.head_not_isGap rest), ht.valueText_append stop]

end IsValueText

namespace Listed

variable {ts : List (List Char)} {list rest : List Char}

/-- A list of values is not empty. -/
lemma ne_nil (h : Listed ts list) : list ≠ [] := by
  cases h with
  | single ht => exact ht.ne_nil
  | cons ht _ _ _ => exact List.append_ne_nil_of_left_ne_nil ht.ne_nil _

/-- A list does not begin with a gap. -/
lemma head_not_isGap (h : Listed ts list) (rest : List Char) :
    ∀ c ∈ (list ++ rest).head?, isGap c = false := by
  cases h with
  | single ht => exact ht.head_not_isGap rest
  | cons ht _ _ _ =>
    rw [List.append_assoc]
    exact ht.head_not_isGap _

/-- All texts of a list are those of values. -/
lemma forall_isValueText (h : Listed ts list) : ∀ t ∈ ts, IsValueText t := by
  induction h with
  | single ht => exact List.forall_mem_singleton.2 ht
  | cons ht _ _ _ ih => exact List.forall_mem_cons.2 ⟨ht, ih⟩

/-- All of a list may stand in a pair. -/
lemma isPairChar (h : Listed ts list) : ∀ c ∈ list, isPairChar c = true := by
  induction h with
  | single ht => exact fun c hc => isPairChar_of_isValueChar (ht.chars c hc)
  | cons ht gapBefore gapAfter _ ih =>
    intro c hc
    simp only [List.mem_append, List.mem_cons] at hc
    rcases hc with hc | hc | rfl | hc | hc
    · exact isPairChar_of_isValueChar (ht.chars c hc)
    · exact isPairChar_of_isGap (gapBefore c hc)
    · rfl
    · exact isPairChar_of_isGap (gapAfter c hc)
    · exact ih c hc

/-- The first value is read up to its end, and then each of the later ones. -/
lemma exists_many (h : Listed ts list) (value : ∀ c ∈ rest.head?, isValueChar c = false)
    (later : ∃ refusal, laterValueText rest = .error refusal) :
    ∃ t ts' tail, ts = t :: ts' ∧ list = t ++ tail ∧ IsValueText t ∧
      (∀ c ∈ (tail ++ rest).head?, isValueChar c = false) ∧
      laterValueReader.many (tail ++ rest) = (ts', rest) := by
  induction h with
  | @single t ht =>
    obtain ⟨refusal, refused⟩ := later
    exact ⟨t, [], [], rfl, (List.append_nil t).symm, ht, value, laterValueReader.many_of_error refused⟩
  | @cons t before after list ts ht gapBefore gapAfter _ ih =>
    -- the next value starts the list that is left, and its tail is read already
    obtain ⟨t', ts', tail, rfl, rfl, ht', stop, many⟩ := ih
    refine ⟨t, t' :: ts', _, rfl, rfl, ht, ?_, ?_⟩
    · rw [List.append_assoc]
      apply head_gap_append gapBefore fun c => isValueChar_of_isGap
      rintro _ ⟨⟩
      rfl
    · have read : laterValueReader.read (before ++ ',' :: (after ++ (t' ++ (tail ++ rest)))) =
          .ok (t', tail ++ rest) := ht'.laterValueText_append gapBefore gapAfter stop
      simp only [List.append_assoc, List.cons_append]
      rw [laterValueReader.many_of_ok read, many]

/-- A list of values is read as its values, if what follows does not carry it on. -/
lemma valueTexts_append (h : Listed ts list) (value : ∀ c ∈ rest.head?, isValueChar c = false)
    (later : ∃ refusal, laterValueText rest = .error refusal) :
    valueTexts (list ++ rest) = (ts, rest) := by
  have skip : skipGap (list ++ rest) = list ++ rest :=
    skipGap_append (List.forall_mem_nil _) (h.head_not_isGap rest)
  obtain ⟨t, ts', tail, rfl, rfl, ht, stop, many⟩ := h.exists_many value later
  rw [valueTexts, skip, List.append_assoc, ht.valueText_append stop]
  simp only [many]

end Listed

/-- What stands before the rest of a text is what was taken from its front. -/
lemma before_eq {cs list rest : List Char} (h : cs = list ++ rest) : before cs rest = list := by
  rw [h, before, List.length_append, Nat.add_sub_cancel, List.take_left]

/-- After a colon, a list of values gives its field, and leaves what follows. -/
lemma Listed.fieldOf_append {ts : List (List Char)} {gap list rest : List Char}
    (h : Listed ts list) (hg : ∀ c ∈ gap, isGap c = true)
    (value : ∀ c ∈ rest.head?, isValueChar c = false)
    (later : ∃ refusal, laterValueText rest = .error refusal) :
    fieldOf (gap ++ (list ++ rest)) =
      (⟨String.ofList (trim list), ts.map Value.ofText⟩, trim rest) := by
  rw [fieldOf, skipGap_append hg (h.head_not_isGap rest)]
  simp only [values, h.valueTexts_append value later, before_eq rfl]

/-- A comma without a value after it does not carry a list on. -/
lemma Listed.fieldOf_append_comma {ts : List (List Char)} {before list after : List Char}
    (h : Listed ts list) (gapBefore : ∀ c ∈ before, isGap c = true)
    (gapAfter : ∀ c ∈ after, isGap c = true) :
    fieldOf (before ++ (list ++ (after ++ [',']))) =
      (⟨String.ofList (trim list), ts.map Value.ofText⟩, [',']) := by
  have noValue : ∀ c ∈ (after ++ [',']).head?, isValueChar c = false := by
    apply head_gap_append gapAfter fun c => isValueChar_of_isGap
    rintro _ ⟨⟩
    rfl
  have noLater : ∃ refusal, laterValueText (after ++ [',']) = .error refusal := by
    have comma : skipGap (after ++ [',']) = [','] := by
      apply skipGap_append gapAfter
      rintro _ ⟨⟩
      rfl
    rw [laterValueText, comma]
    exact ⟨_, rfl⟩
  have left : trim (after ++ [',']) = [','] := by
    rw [trim, trimStart_append (isBlank_of_mem_gap gapAfter)]
    rfl
  rw [h.fieldOf_append gapBefore noValue noLater, left]

end PolySurvey
