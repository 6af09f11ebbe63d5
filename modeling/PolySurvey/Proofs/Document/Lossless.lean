import Mathlib.Data.List.DropRight
import PolySurvey.Proofs.Document.Reading
import PolySurvey.Proofs.Term.Literal

/-!
# A document says what its text says

Reading a document drops nothing but white space, and adds nothing. Every reader takes from the front
of a text what it returns: written again, and followed by what it leaves, this is the text, white
space apart (`Reader.Accounts`). The property holds of names, lists of values and pairs, and repetition
keeps it, so it holds of sections and of a whole document. What the fields of the document hold is
said by the text of their lists of values (`Grammar.Lists`).
-/

namespace PolySurvey

open Text Grammar

/-- A name of letters, digits and underscores that does not begin with a digit. -/
def IsIdentifier (name : String) : Prop := ∃ i : Identifier, i.name = name

namespace Grammar

/-- The text without the spaces and tabs at either end. -/
def trimGap (cs : List Char) : List Char := ((skipGap cs).reverse.dropWhile isGap).reverse

/-- The pieces of a list of values between its commas, without the spaces and tabs around them. An
empty list has no piece. -/
def pieces (list : List Char) : List (List Char) :=
  if list = [] then [] else (splitAtEach ',' list).map trimGap

/-- The text of a list of values gives a field: each piece is a value to its end. -/
structure Lists (list : List Char) (field : Field) : Prop where
  plain : ∀ c ∈ list, c ∉ [';', '\r', '\n']
  raw : field.raw = String.ofList (trim list)
  values : List.Forall₂ (fun piece v => value piece = .ok (v, [])) (pieces list) field.values

/-- The text of a pair without white space. -/
def pairText (pair : String × Field) : List Char :=
  pair.1.toList ++ ':' :: compact pair.2.raw.toList

/-- The text of a section without white space. -/
def sectionText (entry : String × List (String × Field)) : List Char :=
  entry.1.toList ++ entry.2.flatMap pairText

/-- The key of a pair is a name, and its field is what some list of values gives. -/
def WellRead (pair : String × Field) : Prop := IsIdentifier pair.1 ∧ ∃ list, Lists list pair.2

/-- The title of a section is a name, and there are pairs below it. -/
structure WellReadSection (entry : String × List (String × Field)) : Prop where
  title : IsIdentifier entry.1
  ne_nil : entry.2 ≠ []
  pairs : ∀ pair ∈ entry.2, WellRead pair

end Grammar

/-! ## White space -/

/-- Blanks that are dropped do not count. -/
lemma compact_dropWhile {kind : Char → Bool} (h : ∀ c, kind c = true → isBlank c = true)
    (cs : List Char) : compact (cs.dropWhile kind) = compact cs := by
  induction cs with
  | nil => rfl
  | cons c cs ih =>
    by_cases hc : kind c = true
    · rw [List.dropWhile_cons_of_pos hc, ih]
      simp [compact, h c hc]
    · rw [List.dropWhile_cons_of_neg hc]

/-- A text may be turned around before it is compacted. -/
lemma compact_reverse (cs : List Char) : compact cs.reverse = (compact cs).reverse :=
  List.filter_reverse

/-- Trimming drops blanks only. -/
lemma compact_trim (cs : List Char) : compact (trim cs) = compact cs := by
  have start := compact_dropWhile (fun _ h => h) cs
  rw [trim, trimEnd, compact_reverse, compact_dropWhile (fun _ h => h), compact_reverse,
    List.reverse_reverse, trimStart, start]

/-- Skipping a gap drops blanks only. -/
lemma compact_skipGap (cs : List Char) : compact (skipGap cs) = compact cs :=
  compact_dropWhile (fun _ => isBlank_of_isGap) cs

/-- A text of which trimming leaves nothing is blank. -/
lemma compact_eq_nil_of_trim {cs : List Char} (h : trim cs = []) : compact cs = [] := by
  rw [← compact_trim, h]
  rfl

/-- Trimming leaves nothing just when every character is blank. -/
lemma trim_eq_nil_iff {cs : List Char} : trim cs = [] ↔ ∀ c ∈ cs, isBlank c = true := by
  constructor
  · intro h c hc
    simpa using List.filter_eq_nil_iff.1 (compact_eq_nil_of_trim h) c hc
  · intro h
    rw [trim, trimStart_blanks h]
    rfl

/-- A character that is not blank stays. -/
lemma compact_cons {c : Char} (h : isBlank c = false) (cs : List Char) :
    compact (c :: cs) = c :: compact cs := by
  simp [compact, h]

/-- A name has no blank. -/
lemma Identifier.compact_chars (i : Identifier) : compact i.chars = i.chars :=
  compact_eq_self fun c hc => isBlank_of_isNameRest (i.isNameRest_chars c hc)

/-- A gap at the front, and what follows it. -/
lemma exists_append_skipGap (cs : List Char) :
    ∃ gap, (∀ c ∈ gap, isGap c = true) ∧ cs = gap ++ skipGap cs :=
  ⟨cs.takeWhile isGap, fun _ => List.mem_takeWhile_imp, List.takeWhile_append_dropWhile.symm⟩

/-- The text of a field is that of its list, apart from blanks. -/
lemma Grammar.Lists.compact_raw {list : List Char} {field : Field} (h : Lists list field) :
    compact field.raw.toList = compact list := by
  rw [h.raw, String.toList_ofList, compact_trim]

/-! ## Lists of values -/

/-- A sequence of steps that succeeds succeeds in each of them. -/
lemma exists_of_bind_eq_ok {ε α β : Type} {x : Except ε α} {f : α → Except ε β} {b : β}
    (h : (x >>= f) = .ok b) : ∃ a, x = .ok a ∧ f a = .ok b := by
  cases x with
  | error e => cases h
  | ok a => exact ⟨a, rfl, h⟩

/-- What is read as the text of a value is one, and stands at the front. -/
lemma valueText_eq_ok {cs t rest : List Char} (h : valueText cs = .ok (t, rest)) :
    IsValueText t ∧ cs = t ++ rest := by
  unfold valueText at h
  split at h
  · cases h
  · next hne =>
    obtain ⟨rfl, rfl⟩ := Prod.mk.inj (Except.ok.inj h)
    exact ⟨⟨hne, fun _ => List.mem_takeWhile_imp⟩, List.takeWhile_append_dropWhile.symm⟩

/-- What is read as a later value stands after a comma, with gaps around the comma. -/
lemma laterValueText_eq_ok {cs t rest : List Char} (h : laterValueText cs = .ok (t, rest)) :
    IsValueText t ∧ ∃ before after, (∀ c ∈ before, isGap c = true) ∧ (∀ c ∈ after, isGap c = true) ∧
      cs = before ++ ',' :: (after ++ (t ++ rest)) := by
  obtain ⟨before, gapBefore, eq⟩ := exists_append_skipGap cs
  unfold laterValueText at h
  split at h
  · next tail comma =>
    obtain ⟨after, gapAfter, eq'⟩ := exists_append_skipGap tail
    obtain ⟨ht, found⟩ := valueText_eq_ok h
    refine ⟨ht, before, after, gapBefore, gapAfter, ?_⟩
    rw [← found, ← eq', ← comma, ← eq]
  · cases h

/-- The first value and the later ones are a list, up to where reading stops. -/
lemma exists_listed_many {t : List Char} (ht : IsValueText t) (cs : List Char) :
    ∃ list, Listed (t :: (laterValueReader.many cs).1) list ∧
      t ++ cs = list ++ (laterValueReader.many cs).2 := by
  fun_induction Reader.many laterValueReader cs generalizing t with
  | case1 cs t' rest read _ ts rest' many ih =>
    obtain ⟨ht', before, after, gapBefore, gapAfter, eq⟩ := laterValueText_eq_ok read
    obtain ⟨list, listed, eq'⟩ := ih ht'
    rw [many] at listed eq'
    refine ⟨t ++ (before ++ ',' :: (after ++ list)), .cons ht gapBefore gapAfter listed, ?_⟩
    rw [eq, eq']
    simp only [List.append_assoc, List.cons_append]
  | case2 => exact ⟨t, .single ht, rfl⟩

/-- The values that are read make up a list at the front, or there are none. -/
lemma exists_list_valueTexts (cs : List Char) :
    ∃ list, ((valueTexts cs).1 = [] ∧ list = [] ∨ Listed (valueTexts cs).1 list) ∧
      skipGap cs = list ++ (valueTexts cs).2 := by
  unfold valueTexts
  split
  · next first rest read =>
    obtain ⟨ht, eq⟩ := valueText_eq_ok read
    obtain ⟨list, listed, eq'⟩ := exists_listed_many ht rest
    exact ⟨list, .inr listed, eq.trans eq'⟩
  · exact ⟨[], .inl ⟨rfl, rfl⟩, rfl⟩

namespace IsValueText

variable {t : List Char}

/-- Trimmed of the spaces and tabs around it, a value is left. -/
lemma trimGap_eq (ht : IsValueText t) {before after : List Char}
    (gapBefore : ∀ c ∈ before, isGap c = true) (gapAfter : ∀ c ∈ after, isGap c = true) :
    trimGap (before ++ (t ++ after)) = t := by
  have front := skipGap_append gapBefore (ht.head_not_isGap after)
  have back : skipGap (after.reverse ++ t.reverse) = t.reverse :=
    skipGap_append (fun c hc => gapAfter c (List.mem_reverse.1 hc)) fun c hc =>
      ht.not_isGap c (List.mem_reverse.1 (List.mem_of_head? hc))
  rw [trimGap, front, List.reverse_append]
  exact (congrArg List.reverse back).trans (List.reverse_reverse t)

/-- The text of a value has no comma. -/
lemma comma_not_mem (ht : IsValueText t) : ',' ∉ t := fun mem =>
  ne_of_kind (ht.chars _ mem) (by decide) rfl

end IsValueText

/-- A text is a value to its end. -/
lemma value_eq_ok_iff {cs : List Char} {v : Value} :
    value cs = .ok (v, []) ↔ IsValueText cs ∧ v = .ofText cs := by
  constructor
  · intro h
    obtain ⟨⟨t, rest⟩, read, eq⟩ := exists_of_bind_eq_ok h
    obtain ⟨rfl, rfl⟩ := Prod.mk.inj (Except.ok.inj eq)
    obtain ⟨ht, rfl⟩ := valueText_eq_ok read
    rw [List.append_nil]
    exact ⟨ht, rfl⟩
  · rintro ⟨ht, rfl⟩
    have read : valueText (cs ++ []) = .ok (cs, []) := ht.valueText_append (by rintro _ ⟨⟩)
    rw [List.append_nil] at read
    rw [value, read]
    rfl

/-- A gap has no comma. -/
lemma comma_not_mem_of_isGap {gap : List Char} (h : ∀ c ∈ gap, isGap c = true) : ',' ∉ gap :=
  fun mem => ne_of_kind (h _ mem) (by decide) rfl

namespace Listed

variable {ts : List (List Char)} {list : List Char}

/-- The pieces between the commas are the values, also with a gap at the front. -/
lemma map_trimGap_splitAtEach (h : Listed ts list) {gap : List Char}
    (hg : ∀ c ∈ gap, isGap c = true) : (splitAtEach ',' (gap ++ list)).map trimGap = ts := by
  induction h generalizing gap with
  | @single t ht =>
    have comma : ',' ∉ gap ++ t :=
      List.not_mem_append (comma_not_mem_of_isGap hg) ht.comma_not_mem
    have trimmed := ht.trimGap_eq hg (List.forall_mem_nil _)
    rw [List.append_nil] at trimmed
    rw [splitAtEach_of_not_mem comma, List.map_singleton, trimmed]
  | @cons t before after list ts ht gapBefore gapAfter _ ih =>
    have comma : ',' ∉ gap ++ (t ++ before) :=
      List.not_mem_append (comma_not_mem_of_isGap hg)
        (List.not_mem_append ht.comma_not_mem (comma_not_mem_of_isGap gapBefore))
    have assoc : gap ++ (t ++ (before ++ ',' :: (after ++ list))) =
        (gap ++ (t ++ before)) ++ ',' :: (after ++ list) := by
      simp only [List.append_assoc]
    rw [assoc, splitAtEach_append_cons comma, List.map_cons, ih gapAfter,
      ht.trimGap_eq hg gapBefore]

/-- The pieces between the commas of a list are its texts. -/
lemma pieces_eq (h : Listed ts list) : pieces list = ts := by
  rw [pieces, if_neg h.ne_nil]
  exact h.map_trimGap_splitAtEach (List.forall_mem_nil _)

/-- A list gives the field of its trimmed text and of the values of its texts. -/
lemma lists (h : Listed ts list) :
    Lists list ⟨String.ofList (trim list), ts.map Value.ofText⟩ where
  plain c hc mem := by
    simp only [List.mem_cons, List.not_mem_nil, or_false] at mem
    rcases mem with rfl | rfl | rfl <;> exact ne_of_kind (h.isPairChar _ hc) (by decide) rfl
  raw := rfl
  values := by
    rw [h.pieces_eq, List.forall₂_map_right_iff]
    exact List.forall₂_same.2 fun t ht => value_eq_ok_iff.2 ⟨h.forall_isValueText t ht, rfl⟩

end Listed

/-- No list gives an empty field. -/
lemma lists_nil : Lists [] ⟨"", []⟩ where
  plain := List.forall_mem_nil _
  raw := rfl
  values := .nil

/-! ## Readers -/

/-- What a reader takes is what it returns, white space apart. -/
def Reader.Accounts {α : Type} (r : Reader α) (text : α → List Char) (ok : α → Prop) : Prop :=
  ∀ {cs rest a}, r.read cs = .ok (a, rest) → ok a ∧ compact cs = text a ++ compact rest

namespace Reader.Accounts

variable {α : Type} {r : Reader α} {text : α → List Char} {ok : α → Prop}

/-- If each reading accounts for what it takes, then so do all of them together. -/
lemma many (h : r.Accounts text ok) (cs : List Char) :
    (∀ a ∈ (r.many cs).1, ok a) ∧
      compact cs = (r.many cs).1.flatMap text ++ compact (r.many cs).2 := by
  fun_induction Reader.many r cs with
  | case1 cs a rest read _ as rest' eq ih =>
    obtain ⟨ha, taken⟩ := h read
    rw [eq] at ih
    obtain ⟨later, left⟩ := ih
    refine ⟨List.forall_mem_cons.2 ⟨ha, later⟩, ?_⟩
    rw [taken, left, List.flatMap_cons, List.append_assoc]
  | case2 => exact ⟨List.forall_mem_nil _, rfl⟩

/-- The same where at least one reading is asked for. -/
lemma many1 (h : r.Accounts text ok) {cs rest : List Char} {as : List α}
    (read : r.many1 cs = .ok (as, rest)) :
    as ≠ [] ∧ (∀ a ∈ as, ok a) ∧ compact cs = as.flatMap text ++ compact rest := by
  obtain ⟨⟨a, rest'⟩, first, eq⟩ := exists_of_bind_eq_ok read
  obtain ⟨rfl, rfl⟩ := Prod.mk.inj (Except.ok.inj eq)
  obtain ⟨ha, taken⟩ := h first
  obtain ⟨later, left⟩ := h.many rest'
  refine ⟨List.cons_ne_nil _ _, List.forall_mem_cons.2 ⟨ha, later⟩, ?_⟩
  rw [taken, left, List.flatMap_cons, List.append_assoc]

end Reader.Accounts

/-- What is read as a name is one, and stands at the front. -/
lemma name_eq_ok {cs rest : List Char} {s : String} (h : name cs = .ok (s, rest)) :
    ∃ i : Identifier, i.name = s ∧ cs = i.chars ++ rest := by
  unfold name at h
  split at h
  · cases h
  · next c cs =>
    split at h
    · next start =>
      obtain ⟨rfl, rfl⟩ := Prod.mk.inj (Except.ok.inj h)
      have tail : ∀ d ∈ cs.takeWhile isNameRest, d.isAlphanum = true ∨ d = '_' := fun d hd => by
        simpa [isNameRest] using List.mem_takeWhile_imp hd
      refine ⟨⟨c, cs.takeWhile isNameRest, by simpa [isNameStart] using start, tail⟩, rfl, ?_⟩
      exact congrArg (c :: ·) List.takeWhile_append_dropWhile.symm
    · cases h

/-- After a colon, what is taken is a list of values, and it gives the field. -/
lemma exists_lists_fieldOf (cs : List Char) :
    ∃ list rest, skipGap cs = list ++ rest ∧ trim rest = (fieldOf cs).2 ∧
      Lists list (fieldOf cs).1 := by
  obtain ⟨list, listed, eq⟩ := exists_list_valueTexts (skipGap cs)
  have skipped : skipGap (skipGap cs) = skipGap cs := List.dropWhile_idempotent isGap cs
  rw [skipped] at eq
  refine ⟨list, _, eq, rfl, ?_⟩
  rw [fieldOf, values, before_eq eq]
  rcases listed with ⟨none, rfl⟩ | listed
  · rw [none]
    exact lists_nil
  · exact listed.lists

/-- A pair accounts for all that is taken but blanks. -/
lemma accounts_pair : pairReader.Accounts pairText WellRead := by
  intro cs rest p read
  obtain ⟨⟨key, afterKey⟩, named, h⟩ := exists_of_bind_eq_ok (read : pair cs = .ok (p, rest))
  obtain ⟨i, rfl, rfl⟩ := name_eq_ok named
  dsimp only at h
  split at h
  · next tail colon =>
    obtain ⟨list, left, eq, trimmed, lists⟩ := exists_lists_fieldOf tail
    obtain ⟨rfl, rfl⟩ := Prod.mk.inj (Except.ok.inj h)
    refine ⟨⟨⟨i, rfl⟩, list, lists⟩, ?_⟩
    -- trimming drops blanks only, so nothing is missing between the list and what follows
    have taken := congrArg compact eq
    rw [compact_skipGap, compact_append, ← lists.compact_raw, ← compact_trim left, trimmed] at taken
    rw [compact_append, i.compact_chars, ← compact_skipGap afterKey, colon,
      compact_cons (by decide), taken, pairText, Identifier.name, String.toList_ofList,
      List.append_assoc, List.cons_append]
    rfl
  · cases h

/-- A section accounts for all that is taken but blanks. -/
lemma accounts_section : sectionReader.Accounts sectionText WellReadSection := by
  intro cs rest entry read
  obtain ⟨⟨name, afterTitle⟩, titled, h⟩ :=
    exists_of_bind_eq_ok (read : titledPairs cs = .ok (entry, rest))
  obtain ⟨⟨_, afterName⟩, named, eq⟩ := exists_of_bind_eq_ok titled
  obtain ⟨rfl, rfl⟩ := Prod.mk.inj (Except.ok.inj eq)
  obtain ⟨i, rfl, start⟩ := name_eq_ok named
  obtain ⟨⟨pairs, rest'⟩, many, eq⟩ := exists_of_bind_eq_ok h
  obtain ⟨rfl, rfl⟩ := Prod.mk.inj (Except.ok.inj eq)
  obtain ⟨hne, pairsOk, left⟩ := accounts_pair.many1 many
  refine ⟨⟨⟨i, rfl⟩, hne, pairsOk⟩, ?_⟩
  rw [compact_trim] at left
  rw [← compact_skipGap cs, start, compact_append, i.compact_chars, left, sectionText]
  simp only [Identifier.name, String.toList_ofList, List.append_assoc]

/-! ## Documents -/

namespace Document

/-- A text is read as a list of sections: without its remarks it holds these, and after them nothing
but white space. -/
def ReadsAs (text : String) (sections : List (String × List (String × Field))) : Prop :=
  (sectionReader.many (trimStart (withoutRemarks text.toList))).1 = sections ∧
    trim (sectionReader.many (trimStart (withoutRemarks text.toList))).2 = []

/-- A text is read where it is read as a list of sections, and the document is that of the sections. -/
lemma read_eq_ok_iff {text : String} {document : Document} :
    read text = .ok document ↔ ∃ sections, ReadsAs text sections ∧ document = ofSections sections := by
  unfold read ReadsAs
  generalize withoutRemarks text.toList = cs
  by_cases blank : trim cs = []
  · have nothing : sectionReader.many [] = ([], []) := sectionReader.many_of_error rfl
    rw [trimStart_blanks (trim_eq_nil_iff.1 blank), nothing]
    simp only [blank, if_true, Except.ok.injEq]
    constructor
    · rintro rfl
      exact ⟨[], ⟨rfl, rfl⟩, rfl⟩
    · rintro ⟨_, ⟨rfl, -⟩, rfl⟩
      rfl
  · simp only [blank, if_false, readSections]
    -- A document that is not blank needs a first section; once there is one, both readers read the same
    -- list.
    cases first : sectionReader.read (trimStart cs) with
    | error refusal =>
      have trimmed : trim (trimStart cs) = trim cs := by
        rw [trim, trimStart, trimStart, List.dropWhile_idempotent isBlank cs, trim, trimStart]
      rw [sectionReader.many_of_error first]
      simp [Reader.many1, first, bind, Except.bind, trimmed, blank]
    | ok p =>
      rw [sectionReader.many_of_ok first]
      simp only [Reader.many1, first, bind, Except.bind, pure, Except.pure]
      split
      · next finished => simp [finished, eq_comm]
      · next left => simp [left]

/-- Reading a document skips nothing and invents nothing. There are sections, each a title and at
least one pair of a key and a field, which written one after the other are the text without its
remarks and its white space; titles and keys are names, and each field is what a list of values gives;
and the document has under each title the last section of this title, and in it under each key the
last field of this key. -/
theorem exists_sections_of_read {text : String} {document : Document}
    (h : read text = .ok document) :
    ∃ sections : List (String × List (String × Field)),
      compact (withoutRemarks text.toList) = sections.flatMap sectionText ∧
        (∀ entry ∈ sections, WellReadSection entry) ∧
        document.Distinct ∧
        ∀ title, Option.Rel (fun fields pairs =>
            ∀ key, NameMap.get? key fields = NameMap.lastOf key pairs)
          (document.get? title) (NameMap.lastOf title sections) := by
  obtain ⟨sections, ⟨rfl, finished⟩, rfl⟩ := read_eq_ok_iff.1 h
  obtain ⟨wellRead, taken⟩ := accounts_section.many (trimStart (withoutRemarks text.toList))
  rw [compact_eq_nil_of_trim finished, List.append_nil, trimStart,
    compact_dropWhile (fun _ h => h)] at taken
  refine ⟨_, taken, wellRead, distinct_ofSections, fun title => ?_⟩
  rw [get?_ofSections_eq, trimStart]
  cases NameMap.lastOf title _ with
  | none => exact .none
  | some pairs => exact .some fun key => NameMap.get?_ofList pairs key

/-- A title and a key that occur twice, an empty list, and a blank that is no space. -/
theorem exists_sections_of_read_repeated :
    let text := "a k:1 , x\n# c\nb m:\na k: 2\u00a0 k:3"
    let document : Document :=
      [("a", [("k", ⟨"3", [.integer 3]⟩)]), ("b", [("m", ⟨"", []⟩)])]
    read text = .ok document ∧
      ∃ sections : List (String × List (String × Field)),
        compact (withoutRemarks text.toList) = sections.flatMap sectionText ∧
          (∀ entry ∈ sections, WellReadSection entry) ∧
          ∃ pairs, NameMap.lastOf "a" sections = some pairs ∧
            NameMap.lastOf "k" pairs = some ⟨"3", [.integer 3]⟩ := by
  intro text document
  have h : read text = .ok document := by decide +kernel
  obtain ⟨sections, taken, wellRead, -, maps⟩ := exists_sections_of_read h
  refine ⟨h, sections, taken, wellRead, ?_⟩
  have found := maps "a"
  generalize NameMap.lastOf "a" sections = last at found
  cases found with
  | some same => exact ⟨_, rfl, (same "k").symm⟩

end Document

end PolySurvey
