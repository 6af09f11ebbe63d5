import PolySurvey.Proofs.Document.Lossless

/-!
# A pair by itself

A pair is written under its title as a document of its own. It is read as itself, with one exception:
white space at the end of a document is dropped before its pairs are read, so a last value that is
nothing but white space is lost. If it was the only value, none is read; if not, the comma before it
is left over.
-/

namespace PolySurvey

open Text Grammar

/-! ## White space at the end -/

/-- Nothing is left of a text if all of it is blank. -/
lemma trimEnd_eq_nil_iff {cs : List Char} : trimEnd cs = [] ↔ ∀ c ∈ cs, isBlank c = true :=
  List.rdropWhile_eq_nil_iff

/-- What is taken from the end of a text. -/
lemma exists_append_rdropWhile (kind : Char → Bool) (cs : List Char) :
    ∃ tail, (∀ c ∈ tail, kind c = true) ∧ cs = cs.rdropWhile kind ++ tail := by
  refine ⟨cs.rtakeWhile kind, fun _ => List.mem_rtakeWhile_imp, ?_⟩
  rw [List.rdropWhile, List.rtakeWhile, ← List.reverse_append, List.takeWhile_append_dropWhile,
    List.reverse_reverse]

/-- Blanks at the end may be dropped before the others are. -/
lemma trim_trimEnd (cs : List Char) : trim (trimEnd cs) = trim cs := by
  obtain ⟨blanks, blank, eq⟩ := exists_append_rdropWhile isBlank cs
  calc trim (trimEnd cs) = trim (trimEnd cs ++ blanks) := (trim_append blank _).symm
    _ = trim cs := congrArg trim eq.symm

/-- Blanks at the end do not change what a value is. -/
lemma Value.ofText_trimEnd (cs : List Char) : Value.ofText (trimEnd cs) = Value.ofText cs := by
  rw [ofText, trim_trimEnd, ofText]

/-- Only white space is read as an empty text. -/
lemma Value.ofText_eq_empty_iff {cs : List Char} :
    Value.ofText cs = .text "" ↔ trimEnd cs = [] := by
  rw [trimEnd_eq_nil_iff, ← trim_eq_nil_iff, ofText]
  generalize trim cs = t
  constructor
  · intro h
    dsimp only at h
    split at h
    · cases h
    · split at h
      · cases h
      · split_ifs at h
        simpa using h
  · rintro rfl
    rfl

namespace Listed

variable {ts : List (List Char)} {list : List Char}

/-- A list has at least one text. -/
lemma texts_ne_nil (h : Listed ts list) : ts ≠ [] := by
  cases h <;> exact List.cons_ne_nil _ _

/-- A list without the white space at its end has the same values, or it is nothing any more, or it
lacks its last value and ends with a comma. -/
lemma trimEnd_cases (h : Listed ts list) :
    (∃ ts', Listed ts' (trimEnd list) ∧ ts'.map Value.ofText = ts.map Value.ofText ∧
        (ts.map Value.ofText).getLast? ≠ some (.text "")) ∨
      (trimEnd list = [] ∧ ts.map Value.ofText = [.text ""]) ∨
      ∃ ts' list' gap, (∀ c ∈ gap, isGap c = true) ∧ Listed ts' list' ∧
        trimEnd list = list' ++ (gap ++ [',']) ∧
        ts.map Value.ofText = ts'.map Value.ofText ++ [.text ""] := by
  induction h with
  | @single t ht =>
    by_cases blank : trimEnd t = []
    · refine .inr (.inl ⟨blank, ?_⟩)
      rw [List.map_singleton, Value.ofText_eq_empty_iff.2 blank]
    · have kept : IsValueText (trimEnd t) := by
        refine ⟨blank, fun c hc => ht.chars c ?_⟩
        exact (List.rdropWhile_prefix ..).sublist.subset hc
      refine .inl ⟨[trimEnd t], .single kept, ?_, ?_⟩
      · rw [List.map_singleton, List.map_singleton, Value.ofText_trimEnd]
      · intro last
        exact blank (Value.ofText_eq_empty_iff.1 (Option.some.inj last))
  | @cons t before after list ts ht gapBefore gapAfter later ih =>
    -- white space at the end reaches back to the last comma at most
    have comma : ∀ c ∈ (t ++ (before ++ [','])).getLast?, isBlank c = false := by
      rw [← List.append_assoc, List.getLast?_concat]
      rintro _ ⟨⟩
      decide
    have trimmed : trimEnd (t ++ (before ++ ',' :: (after ++ list))) =
        t ++ (before ++ ',' :: trimEnd (after ++ list)) := by
      have front := trimEnd_append comma (after ++ list)
      simpa only [List.append_assoc, List.cons_append, List.nil_append] using front
    rw [trimmed, List.map_cons]
    rcases ih with ⟨ts', listed, same, last⟩ | ⟨none, only⟩ | ⟨ts', list', gap, hg, listed, eq, values⟩
    · rw [trimEnd_append_of_ne_nil after listed.ne_nil]
      refine .inl ⟨t :: ts', .cons ht gapBefore gapAfter listed, by rw [List.map_cons, same], ?_⟩
      rwa [List.getLast?_cons_of_ne_nil fun none => later.texts_ne_nil (List.map_eq_nil_iff.1 none)]
    · have blank : ∀ c ∈ after ++ list, isBlank c = true := fun c hc =>
        (List.mem_append.1 hc).elim (isBlank_of_mem_gap gapAfter c) (trimEnd_eq_nil_iff.1 none c)
      refine .inr (.inr ⟨[t], t, before, gapBefore, .single ht, ?_, ?_⟩)
      · rw [trimEnd_blanks blank]
      · rw [only]
        rfl
    · have left : trimEnd list ≠ [] := by
        rw [eq]
        exact List.append_ne_nil_of_left_ne_nil listed.ne_nil _
      rw [trimEnd_append_of_ne_nil after left, eq]
      refine .inr (.inr ⟨t :: ts', t ++ (before ++ ',' :: (after ++ list')), gap, hg,
        .cons ht gapBefore gapAfter listed, ?_, ?_⟩)
      · simp only [List.append_assoc, List.cons_append]
      · rw [values]
        rfl

end Listed

/-- What is dropped at either end of a text are gaps. -/
lemma exists_append_trimGap (cs : List Char) :
    ∃ before after, (∀ c ∈ before, isGap c = true) ∧ (∀ c ∈ after, isGap c = true) ∧
      cs = before ++ (trimGap cs ++ after) := by
  obtain ⟨before, gapBefore, eq⟩ := exists_append_skipGap cs
  obtain ⟨after, gapAfter, eq'⟩ := exists_append_rdropWhile isGap (skipGap cs)
  exact ⟨before, after, gapBefore, gapAfter, eq.trans (congrArg (before ++ ·) eq')⟩

/-- A text whose pieces between commas are values is a list of these, with a gap at either end. -/
lemma exists_listed_of_pieces (list : List Char)
    (texts : ∀ t ∈ (splitAtEach ',' list).map trimGap, IsValueText t) :
    ∃ before middle after, (∀ c ∈ before, isGap c = true) ∧ (∀ c ∈ after, isGap c = true) ∧
      Listed ((splitAtEach ',' list).map trimGap) middle ∧ list = before ++ (middle ++ after) := by
  by_cases comma : ',' ∈ list
  · obtain ⟨first, rest, rfl, none⟩ := List.eq_append_cons_of_mem comma
    rw [splitAtEach_append_cons none, List.map_cons] at texts ⊢
    obtain ⟨ht, later⟩ := List.forall_mem_cons.1 texts
    obtain ⟨before, gap, gapBefore, gapGap, eq⟩ := exists_append_trimGap first
    obtain ⟨gap', middle, after, gapGap', gapAfter, listed, eq'⟩ := exists_listed_of_pieces rest later
    refine ⟨before, trimGap first ++ (gap ++ ',' :: (gap' ++ middle)), after, gapBefore, gapAfter,
      .cons ht gapGap gapGap' listed, ?_⟩
    calc first ++ ',' :: rest
        = (before ++ (trimGap first ++ gap)) ++ ',' :: (gap' ++ (middle ++ after)) := by
          rw [← eq, ← eq']
      _ = before ++ ((trimGap first ++ (gap ++ ',' :: (gap' ++ middle))) ++ after) := by
          simp only [List.append_assoc, List.cons_append]
  · rw [splitAtEach_of_not_mem comma, List.map_singleton] at texts ⊢
    obtain ⟨before, after, gapBefore, gapAfter, eq⟩ := exists_append_trimGap list
    exact ⟨before, trimGap list, after, gapBefore, gapAfter,
      .single (texts _ (List.mem_singleton_self _)), eq⟩
termination_by list.length

namespace Grammar.Lists

variable {list : List Char} {field : Field}

/-- A text that gives a field is empty, or it is a list with a gap at either end. -/
lemma eq_nil_or_exists_listed (h : Lists list field) :
    (list = [] ∧ field = ⟨"", []⟩) ∨
      ∃ ts before middle after, (∀ c ∈ before, isGap c = true) ∧ (∀ c ∈ after, isGap c = true) ∧
        Listed ts middle ∧ list = before ++ (middle ++ after) ∧
        field = ⟨String.ofList (trim middle), ts.map Value.ofText⟩ := by
  obtain ⟨raw, vs⟩ := field
  obtain ⟨-, rfl, values⟩ := h
  change List.Forall₂ _ _ vs at values
  by_cases none : list = []
  · subst none
    obtain rfl := List.forall₂_nil_left_iff.1 values
    exact .inl ⟨rfl, rfl⟩
  · rw [pieces, if_neg none] at values
    -- Each piece is the text of a value; what it is read as follows from the text.
    obtain ⟨texts, eq⟩ := (List.forall₂_and_left ..).1 (values.imp fun _ _ => value_eq_ok_iff.1)
    have eq : ((splitAtEach ',' list).map trimGap).map Value.ofText = vs := by
      rw [← List.forall₂_eq_eq_eq, List.forall₂_map_left_iff]
      exact eq.imp fun _ _ => Eq.symm
    obtain ⟨before, middle, after, gapBefore, gapAfter, listed, split⟩ :=
      exists_listed_of_pieces list texts
    have outer : trim list = trim middle := by
      rw [split, trim, trimStart_append (isBlank_of_mem_gap gapBefore)]
      exact trim_append (isBlank_of_mem_gap gapAfter) middle
    refine .inr ⟨_, before, middle, after, gapBefore, gapAfter, listed, split, ?_⟩
    rw [outer, eq]

/-- A text that gives a field gives it also without the white space at its end, unless its last value
is nothing but white space. Then it gives an empty field, if that was the only value, or a comma is
left over. -/
lemma fieldOf_trimEnd_cases (h : Lists list field) :
    (fieldOf (trimEnd list) = (field, []) ∧ field.values.getLast? ≠ some (.text "")) ∨
      (fieldOf (trimEnd list) = (⟨"", []⟩, []) ∧ field.values = [.text ""]) ∨
      ((fieldOf (trimEnd list)).2 = [','] ∧ field.values.getLast? = some (.text "") ∧
        field.values ≠ [.text ""]) := by
  rcases h.eq_nil_or_exists_listed with
    ⟨rfl, rfl⟩ | ⟨ts, before, middle, after, gapBefore, gapAfter, listed, rfl, rfl⟩
  · exact .inl ⟨rfl, nofun⟩
  · rw [← List.append_assoc, trimEnd_append_blanks (isBlank_of_mem_gap gapAfter)]
    -- Trimming ends inside the last value, or it takes all of the list, or it reaches the last comma.
    rcases listed.trimEnd_cases with
      ⟨ts', listed', same, last⟩ | ⟨none, only⟩ | ⟨ts', list', gap, hg, listed', split, values⟩
    · have read : fieldOf (before ++ (trimEnd middle ++ [])) = _ :=
        listed'.fieldOf_append gapBefore (by rintro _ ⟨⟩) ⟨_, rfl⟩
      rw [List.append_nil, trim_trimEnd, same] at read
      rw [trimEnd_append_of_ne_nil before listed'.ne_nil, read]
      exact .inl ⟨rfl, last⟩
    · have blank : ∀ c ∈ before ++ middle, isBlank c = true := fun c hc =>
        (List.mem_append.1 hc).elim (isBlank_of_mem_gap gapBefore c) (trimEnd_eq_nil_iff.1 none c)
      rw [trimEnd_blanks blank, only]
      exact .inr (.inl ⟨rfl, rfl⟩)
    · have left : trimEnd middle ≠ [] := by
        rw [split]
        exact List.append_ne_nil_of_left_ne_nil listed'.ne_nil _
      rw [trimEnd_append_of_ne_nil before left, split, listed'.fieldOf_append_comma gapBefore hg]
      refine .inr (.inr ⟨rfl, by rw [values, List.getLast?_concat], fun single => ?_⟩)
      have none : ts'.map Value.ofText = [] :=
        List.append_left_eq_self.1 (values.symm.trans single : _ = [] ++ [Value.text ""])
      exact listed'.texts_ne_nil (List.map_eq_nil_iff.1 none)

end Grammar.Lists

/-! ## Reading -/

namespace Document

/-- A pair under its title, as the text of a document. -/
def alone (title key : String) (list : List Char) : String :=
  String.ofList (title.toList ++ ' ' :: (key.toList ++ ':' :: list))

variable (title key : Identifier) {list : List Char}

/-- The text of a pair by itself has no remark. -/
lemma withoutRemarks_alone (plain : ∀ c ∈ list, c ∉ [';', '\r', '\n']) :
    withoutRemarks (alone title.name key.name list).toList =
      title.chars ++ ' ' :: (key.chars ++ ':' :: list) := by
  have absent {c : Char} (name : isNameRest c = false) (space : c ≠ ' ') (colon : c ≠ ':')
      (outside : c ∉ list) : c ∉ title.chars ++ ' ' :: (key.chars ++ ':' :: list) := by
    simp only [List.mem_append, List.mem_cons, not_or]
    exact ⟨fun mem => ne_of_kind (title.isNameRest_chars c mem) name rfl, space,
      fun mem => ne_of_kind (key.isNameRest_chars c mem) name rfl, colon, outside⟩
  have line : IsLineStart (title.chars ++ ' ' :: (key.chars ++ ':' :: list)) :=
    ⟨⟨title.first, _, rfl, title.isNameStart⟩,
      absent (by decide) (by decide) (by decide) fun mem => plain _ mem (by decide),
      absent (by decide) (by decide) (by decide) fun mem => plain _ mem (by decide)⟩
  have stays := line.withoutRemarks_append (.inl rfl : Continues [])
  simp only [alone, Identifier.name, String.toList_ofList]
  rw [List.append_nil] at stays
  exact stays.trans (List.append_nil _)

/-- The title of such a document is read as written, and what follows it loses the blanks at its end. -/
lemma title_alone (list : List Char) :
    Grammar.title (skipGap (trimStart (title.chars ++ ' ' :: (key.chars ++ ':' :: list)))) =
      .ok (title.name, key.chars ++ ':' :: trimEnd list) := by
  have start : trimStart (title.chars ++ ' ' :: (key.chars ++ ':' :: list)) =
      title.chars ++ ([' '] ++ (key.chars ++ ':' :: list)) :=
    trimStart_cons (isBlank_of_isNameStart title.isNameStart) _
  have skip : skipGap (title.chars ++ ([' '] ++ (key.chars ++ ':' :: list))) =
      title.chars ++ ([' '] ++ (key.chars ++ ':' :: list)) := by
    simp [Identifier.chars, skipGap, isGap_of_isNameStart title.isNameStart]
  have named := title.name_space (List.cons_ne_nil ' ' []) (List.forall_mem_singleton.2 rfl)
    (key.chars ++ ':' :: list)
  have keep : trimStart (key.chars ++ ':' :: list) = key.chars ++ ':' :: list :=
    trimStart_cons (isBlank_of_isNameStart key.isNameStart) _
  have colon : ∀ c ∈ (key.chars ++ [':']).getLast?, isBlank c = false := by
    rw [List.getLast?_concat]
    rintro _ ⟨⟩
    decide
  have back := trimEnd_append colon list
  rw [List.append_assoc, List.append_assoc, List.singleton_append, List.singleton_append] at back
  have trimmed : trim ([' '] ++ (key.chars ++ ':' :: list)) = key.chars ++ ':' :: trimEnd list := by
    rw [trim, trimStart_append (List.forall_mem_singleton.2 (by decide)), keep, back]
  rw [start, skip, Grammar.title, named]
  exact congrArg (fun rest => Except.ok (title.name, rest)) trimmed

/-- One section of one pair is read of a pair by itself. -/
lemma many_alone (left : (fieldOf (trimEnd list)).2 ∈ [[], [',']]) :
    sectionReader.many (trimStart (title.chars ++ ' ' :: (key.chars ++ ':' :: list))) =
      ([(title.name, [(key.name, (fieldOf (trimEnd list)).1)])], (fieldOf (trimEnd list)).2) := by
  -- where nothing is left or only a comma, neither a pair nor a section starts
  have refused : (∃ refusal, pairReader.read (fieldOf (trimEnd list)).2 = .error refusal) ∧
      ∃ refusal, sectionReader.read (fieldOf (trimEnd list)).2 = .error refusal := by
    rw [List.mem_pair] at left
    rcases left with eq | eq
    all_goals
      rw [eq]
      exact ⟨⟨_, rfl⟩, _, rfl⟩
  obtain ⟨⟨_, noPair⟩, _, noSection⟩ := refused
  have pairs : pairReader.many1 (key.chars ++ ':' :: trimEnd list) =
      .ok ([(key.name, (fieldOf (trimEnd list)).1)], (fieldOf (trimEnd list)).2) := by
    have first : pairReader.read (key.chars ++ ':' :: trimEnd list) = _ :=
      key.pair_append (List.forall_mem_nil _ : ∀ c ∈ [], isGap c = true) _
    apply Reader.many1_of_many
    rw [pairReader.many_of_ok first, pairReader.many_of_error noPair]
  have read : sectionReader.read (trimStart (title.chars ++ ' ' :: (key.chars ++ ':' :: list))) =
      .ok ((title.name, [(key.name, (fieldOf (trimEnd list)).1)]), (fieldOf (trimEnd list)).2) := by
    change titledPairs _ = _
    rw [titledPairs, title_alone]
    simp only [bind, Except.bind, pure, Except.pure, pairs]
  rw [sectionReader.many_of_ok read, sectionReader.many_of_error noSection]

/-- A pair by itself is read as it stands, or as an empty field, or not at all. -/
theorem read_alone_cases {field : Field} (h : Lists list field) :
    (read (alone title.name key.name list) = .ok [(title.name, [(key.name, field)])] ∧
        field.values.getLast? ≠ some (.text "")) ∨
      (read (alone title.name key.name list) = .ok [(title.name, [(key.name, ⟨"", []⟩)])] ∧
        field.values = [.text ""]) ∨
      ((∃ e, read (alone title.name key.name list) = .error e) ∧
        field.values.getLast? = some (.text "") ∧ field.values ≠ [.text ""]) := by
  have whole {f : Field} (eq : fieldOf (trimEnd list) = (f, [])) :
      read (alone title.name key.name list) = .ok [(title.name, [(key.name, f)])] := by
    have left : (fieldOf (trimEnd list)).2 ∈ [[], [',']] := by rw [eq]; exact List.mem_cons_self ..
    refine read_eq_ok_iff.2 ⟨[(title.name, [(key.name, f)])], ?_, rfl⟩
    rw [ReadsAs, withoutRemarks_alone title key h.plain, many_alone title key left, eq]
    exact ⟨rfl, rfl⟩
  rcases h.fieldOf_trimEnd_cases with ⟨eq, last⟩ | ⟨eq, only⟩ | ⟨comma, last⟩
  · exact .inl ⟨whole eq, last⟩
  · exact .inr (.inl ⟨whole eq, only⟩)
  · refine .inr (.inr ⟨?_, last⟩)
    have left : (fieldOf (trimEnd list)).2 ∈ [[], [',']] := by rw [comma]; decide
    cases result : read (alone title.name key.name list) with
    | error e => exact ⟨e, rfl⟩
    | ok document =>
      obtain ⟨sections, ⟨-, finished⟩, -⟩ := read_eq_ok_iff.1 result
      rw [withoutRemarks_alone title key h.plain, many_alone title key left, comma] at finished
      cases finished

end Document

end PolySurvey
