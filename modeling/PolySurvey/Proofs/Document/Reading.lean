import PolySurvey.Proofs.Document.Maps
import PolySurvey.Proofs.Document.Written

/-!
# Every well-formed document is read

Reading takes one chunk of a written document after the other, and what it leaves is the chunks that
follow, again with white space between them: a title is told from a key by the colon that does not
follow it. So each pair, each section and the whole document are read completely, also with remarks
between the lines.
-/

namespace PolySurvey

open Text Grammar

namespace Identifier

variable (i : Identifier)

/-- A name is read up to the first character that cannot be part of it. -/
lemma name_append {rest : List Char} (stop : ∀ c ∈ rest.head?, Grammar.isNameRest c = false) :
    Grammar.name (i.chars ++ rest) = .ok (i.name, rest) := by
  obtain ⟨taken, left⟩ := Prod.mk.inj (Part.run_takes i.isNameRest stop)
  rw [chars, List.cons_append, Grammar.name, if_pos i.isNameStart, taken, left]
  rfl

end Identifier

/-- A gap ends a name. -/
lemma isNameRest_of_isGap {c : Char} (h : isGap c = true) : isNameRest c = false :=
  Bool.eq_false_iff.2 fun name =>
    ne_of_kind (isValueChar_of_isNameRest name) (isValueChar_of_isGap h) rfl

/-- After a key and a colon comes a field. -/
lemma Identifier.pair_append (key : Identifier) {gap : List Char} (hg : ∀ c ∈ gap, isGap c = true)
    (cs : List Char) :
    pair (key.chars ++ (gap ++ ':' :: cs)) = .ok ((key.name, (fieldOf cs).1), (fieldOf cs).2) := by
  have noGap : ∀ c ∈ (':' :: cs).head?, isGap c = false := by
    rintro _ ⟨⟩
    rfl
  have noName : ∀ c ∈ (':' :: cs).head?, Grammar.isNameRest c = false := by
    rintro _ ⟨⟩
    rfl
  have named := key.name_append (head_gap_append hg (fun c => isNameRest_of_isGap) noName)
  rw [pair, named]
  simp only [bind, Except.bind, skipGap_append hg noGap]
  rfl

/-- A token begins with a character that is not blank. -/
lemma Token.head_append (t : Token) (rest : List Char) :
    ∃ c tail, t.chars ++ rest = c :: tail ∧ isBlank c = false := by
  obtain ⟨chars, hne, _, head, _⟩ := t
  cases chars with
  | nil => exact absurd rfl hne
  | cons c chars => exact ⟨c, chars ++ rest, rfl, head c rfl⟩

/-- A text that does not carry a list of values on. -/
structure EndsValues (rest : List Char) : Prop where
  value : ∀ c ∈ rest.head?, isValueChar c = false
  comma : (skipGap rest).head? ≠ some ','

/-- No later value is read where the values end. -/
lemma EndsValues.later {rest : List Char} (h : EndsValues rest) :
    ∃ refusal, laterValueText rest = .error refusal := by
  have comma := h.comma
  unfold laterValueText
  split
  · next eq => exact absurd (by rw [eq]; rfl) comma
  · exact ⟨_, rfl⟩

namespace WrittenPair

variable (p : WrittenPair) {rest : List Char}

/-- The list of a pair has no blank at its ends. -/
lemma trim_raw : trim p.raw = p.raw := by
  obtain ⟨c, tail, eq, blank⟩ := p.first.head_append (p.later.flatMap LaterToken.text)
  have keep := trimEnd_append p.last_raw []
  rw [List.append_nil] at keep
  rw [trim, raw, eq, trimStart_cons blank, ← eq]
  exact keep.trans (List.append_nil _)

/-- A pair is read as its field, whatever follows that does not carry its values on. -/
lemma pair_append (h : EndsValues rest) :
    pair (p.text ++ rest) = .ok ((p.key.name, p.field), trim rest) := by
  have field : fieldOf (p.after.chars ++ (p.raw ++ rest)) = (p.field, trim rest) := by
    rw [p.listed.fieldOf_append p.after.isGap h.value h.later, p.trim_raw, List.map_map]
    rfl
  have assoc : p.text ++ rest =
      p.key.chars ++ (p.before.chars ++ ':' :: (p.after.chars ++ (p.raw ++ rest))) := by
    simp only [text, List.append_assoc, List.cons_append]
  rw [assoc, p.key.pair_append p.before.isGap, field]

end WrittenPair

/-! ## Between the chunks -/

/-- Space is blank. -/
lemma isBlank_of_isSpace {c : Char} (h : isSpace c = true) : isBlank c = true := by
  rw [isSpace, Bool.or_eq_true, decide_eq_true_eq] at h
  rcases h with gap | rfl
  · exact isBlank_of_isGap gap
  · decide

section

variable {chunks : List (List Char)} {space rest cs : List Char}

/-- A name does not begin with a gap. -/
lemma isGap_of_isNameStart {c : Char} (h : isNameStart c = true) : isGap c = false :=
  Bool.eq_false_iff.2 fun gap =>
    ne_of_kind (isNameRest_of_isNameStart h) (isNameRest_of_isGap gap) rfl

/-- After white space comes a chunk, if anything. -/
lemma head_skipGap_ne (spaces : ∀ c ∈ space, isSpace c = true) (hr : Continues rest) {c : Char}
    (name : isNameStart c = false) (feed : c ≠ '\n') : (skipGap (space ++ rest)).head? ≠ some c := by
  induction space with
  | nil =>
    rcases hr with rfl | ⟨d, tail, rfl, hd⟩
    · rintro ⟨⟩
    · simpa [skipGap, isGap_of_isNameStart hd] using ne_of_kind hd name
  | cons d space ih =>
    obtain ⟨hd, later⟩ := List.forall_mem_cons.1 spaces
    by_cases gap : isGap d = true
    · simpa [skipGap, gap] using ih later
    · obtain rfl : d = '\n' := by simpa [isSpace, gap] using hd
      simpa [skipGap, gap] using feed.symm

/-- Space, and what may follow it, ends the values of a pair. -/
lemma endsValues (spaces : ∀ c ∈ space, isSpace c = true) (apart : space = [] → rest = [])
    (hr : Continues rest) : EndsValues (space ++ rest) where
  value := by
    cases space with
    | nil =>
      rw [apart rfl]
      rintro _ ⟨⟩
    | cons c space =>
      rintro _ ⟨⟩
      have space := spaces c (List.mem_cons_self ..)
      rw [isSpace, Bool.or_eq_true, decide_eq_true_eq] at space
      rcases space with gap | rfl
      · exact isValueChar_of_isGap gap
      · rfl
  comma := head_skipGap_ne spaces hr (by decide) (by decide)

/-- Blanks at the end are dropped from the second of two texts if it is not all blank. -/
lemma trimEnd_append_of_ne_nil (as : List Char) {bs : List Char} (h : trimEnd bs ≠ []) :
    trimEnd (as ++ bs) = as ++ trimEnd bs := by
  have left : (bs.reverse.dropWhile isBlank).isEmpty ≠ true := by
    rw [trimEnd, ne_eq, List.reverse_eq_nil_iff] at h
    rwa [ne_eq, List.isEmpty_iff]
  rw [trimEnd, List.reverse_append, List.dropWhile_append, if_neg left, List.reverse_append,
    List.reverse_reverse, trimEnd]

namespace Spaced

/-- Trimming takes only what follows the last chunk. -/
lemma trimEnd (h : Spaced chunks cs) : Spaced chunks (trimEnd cs) := by
  induction h with
  | nil => exact .nil
  | @cons chunk space rest chunks chunkOk spaces apart h ih =>
    rw [trimEnd_append chunkOk.last]
    rcases h.continues with rfl | ⟨c, tail, rfl, hc⟩
    · obtain rfl := h.eq_nil
      rw [List.append_nil, trimEnd_blanks fun c hc => isBlank_of_isSpace (spaces c hc)]
      change Spaced [chunk] (chunk ++ ([] ++ []))
      exact .cons chunkOk (by simp) (fun _ => rfl) .nil
    · have kept : Text.trimEnd (c :: tail) ≠ [] := by
        rw [trimEnd_cons (isBlank_of_isNameStart hc)]
        exact List.cons_ne_nil _ _
      rw [trimEnd_append_of_ne_nil space kept]
      exact .cons chunkOk spaces apart ih

/-- What is written in chunks does not begin with blanks. -/
lemma trimStart (h : Spaced chunks cs) : trimStart cs = cs := by
  rcases h.continues with rfl | ⟨c, tail, rfl, hc⟩
  · rfl
  · exact trimStart_cons (isBlank_of_isNameStart hc) tail

/-- Space before the chunks, and blanks after them, may be trimmed. -/
lemma trim_space (h : Spaced chunks cs) (spaces : ∀ c ∈ space, isSpace c = true) :
    Spaced chunks (trim (space ++ cs)) := by
  rw [trim, trimStart_append fun c hc => isBlank_of_isSpace (spaces c hc), h.trimStart]
  exact h.trimEnd

/-- What is written in chunks does not begin with a gap. -/
lemma skipGap (h : Spaced chunks cs) : skipGap cs = cs := by
  rcases h.continues with rfl | ⟨c, tail, rfl, hc⟩
  · rfl
  · simp [Grammar.skipGap, isGap_of_isNameStart hc]

end Spaced

end

/-! ## Sections -/

/-- Without a chunk nothing is written. -/
lemma Spaced.text_eq_nil {cs : List Char} (h : Spaced [] cs) : cs = [] := by
  cases h
  rfl

/-- Where something has been read, at least one reading has succeeded. -/
lemma Reader.many1_of_many {α : Type} {r : Reader α} {cs rest : List Char} {a : α} {as : List α}
    (h : r.many cs = (a :: as, rest)) : r.many1 cs = .ok (a :: as, rest) := by
  cases read : r.read cs with
  | error refusal =>
    rw [r.many_of_error read] at h
    cases h
  | ok first =>
    rw [r.many_of_ok read] at h
    rw [Reader.many1, read]
    exact congrArg Except.ok h

/-- Chunks at which no pair starts: none, or a title and what follows it. -/
def Stops (chunks : List (List Char)) : Prop :=
  chunks = [] ∨ ∃ (title : Identifier) (next : List Char) (later : List (List Char)),
    chunks = title.chars :: next :: later

/-- A name is read up to the space after it. -/
lemma Identifier.name_space (i : Identifier) {space : List Char} (hne : space ≠ [])
    (spaces : ∀ c ∈ space, isSpace c = true) (rest : List Char) :
    Grammar.name (i.chars ++ (space ++ rest)) = .ok (i.name, space ++ rest) := by
  apply i.name_append
  cases space with
  | nil => exact absurd rfl hne
  | cons c space =>
    rintro _ ⟨⟩
    have blank := isBlank_of_isSpace (spaces c (List.mem_cons_self ..))
    exact Bool.eq_false_iff.2 fun name => ne_of_kind blank (isBlank_of_isNameRest name) rfl

/-- A title is no key, since no colon follows it. -/
lemma Spaced.exists_pair_eq_error {chunks : List (List Char)} {cs : List Char}
    (h : Spaced chunks cs) (stops : Stops chunks) : ∃ refusal, pair cs = .error refusal := by
  rcases stops with rfl | ⟨title, next, later, rfl⟩
  · obtain rfl := h.text_eq_nil
    exact ⟨_, rfl⟩
  · cases h with
    | @cons _ space rest _ _ spaces apart h =>
      have hne : space ≠ [] := fun none => List.cons_ne_nil _ _ (apart none)
      have colon := head_skipGap_ne spaces h.continues (by decide : isNameStart ':' = false)
        (by decide)
      rw [pair, title.name_space hne spaces]
      simp only [bind, Except.bind]
      split
      · next eq => exact absurd (by rw [eq]; rfl) colon
      · exact ⟨_, rfl⟩

/-- The pairs of a section are read one after the other, up to what stops them. -/
lemma exists_many_pairs (pairs : List (WrittenPair × Space)) {more : List (List Char)}
    {cs : List Char} (stops : Stops more) (h : Spaced ((pairs.map fun (p, _) => p.text) ++ more) cs) :
    ∃ rest, pairReader.many cs = (pairs.map fun (p, _) => (p.key.name, p.field), rest) ∧
      Spaced more rest := by
  induction pairs generalizing cs with
  | nil =>
    obtain ⟨refusal, refused⟩ := h.exists_pair_eq_error stops
    exact ⟨cs, pairReader.many_of_error refused, h⟩
  | cons pair pairs ih =>
    obtain ⟨p, _⟩ := pair
    cases h with
    | @cons _ space rest _ _ spaces apart h =>
      have none : space = [] → rest = [] := fun none => by
        rw [apart none] at h
        exact h.text_eq_nil
      have read : pairReader.read (p.text ++ (space ++ rest)) =
          .ok ((p.key.name, p.field), trim (space ++ rest)) :=
        p.pair_append (endsValues spaces none h.continues)
      obtain ⟨rest', eq, h'⟩ := ih (h.trim_space spaces)
      exact ⟨rest', by rw [pairReader.many_of_ok read, eq]; rfl, h'⟩

/-- A section is read as written, and the chunks after it are left. -/
lemma WrittenSection.exists_titledPairs (s : WrittenSection) {more : List (List Char)}
    {cs : List Char} (stops : Stops more) (h : Spaced (s.chunks ++ more) cs) :
    ∃ rest, titledPairs cs = .ok (s.entry, rest) ∧ Spaced more rest := by
  obtain ⟨title, _, pairs, hne⟩ := s
  have start := h.skipGap
  cases pairs with
  | nil => exact absurd rfl hne
  | cons pair pairs =>
    cases h with
    | @cons _ space rest _ _ spaces apart h =>
      have apart : space ≠ [] := fun none => List.cons_ne_nil _ _ (apart none)
      obtain ⟨rest', read, h'⟩ := exists_many_pairs (pair :: pairs) stops (h.trim_space spaces)
      refine ⟨rest', ?_, h'⟩
      rw [titledPairs, start, Grammar.title, title.name_space apart spaces]
      simp only [bind, Except.bind, pure, Except.pure, Reader.many1_of_many read]
      rfl

/-- The title of the next section, or the end, stops the pairs of a section. -/
lemma stops_flatMap_chunks (sections : List WrittenSection) :
    Stops (sections.flatMap WrittenSection.chunks) := by
  cases sections with
  | nil => exact .inl rfl
  | cons s sections =>
    obtain ⟨title, _, pairs, hne⟩ := s
    cases pairs with
    | nil => exact absurd rfl hne
    | cons pair pairs => exact .inr ⟨title, _, _, rfl⟩

/-- Sections are read one after the other, and nothing is left after the last. -/
lemma many_sections (sections : List WrittenSection) {cs : List Char}
    (h : Spaced (sections.flatMap WrittenSection.chunks) cs) :
    sectionReader.many cs = (sections.map WrittenSection.entry, []) := by
  induction sections generalizing cs with
  | nil =>
    obtain rfl := h.text_eq_nil
    exact sectionReader.many_of_error rfl
  | cons s sections ih =>
    obtain ⟨rest, read, h'⟩ := s.exists_titledPairs (stops_flatMap_chunks sections) h
    have read : sectionReader.read cs = .ok (s.entry, rest) := read
    rw [sectionReader.many_of_ok read, ih h', List.map_cons]

/-! ## Documents -/

namespace Document

/-- A section that is read holds under each key the field of its last pair. -/
lemma get?_entry (s : WrittenSection) (key : String) :
    NameMap.get? key (NameMap.ofList s.entry.2) = s.field? key := by
  rw [NameMap.get?_ofList]
  exact NameMap.lastOf_map ..

/-- A document that is read holds under each title the last section of it. -/
lemma get?_ofSections (sections : List WrittenSection) (title : String) :
    Option.Rel (fun fields s => ∀ key, NameMap.get? key fields = s.field? key)
      ((ofSections (sections.map WrittenSection.entry)).get? title)
      (WrittenSection.last? sections title) := by
  have find : (ofSections (sections.map WrittenSection.entry)).get? title =
      (WrittenSection.last? sections title).map fun s => NameMap.ofList s.entry.2 := by
    rw [get?_ofSections_eq, NameMap.lastOf_map, Option.map_map]
    rfl
  rw [find]
  cases WrittenSection.last? sections title with
  | none => exact .none
  | some s => exact .some (get?_entry s)

/-- The chunks of written sections are read as a document, whatever white space is between them. -/
lemma read_of_spaced (sections : List WrittenSection) {text : String}
    (h : Spaced (sections.flatMap WrittenSection.chunks) (withoutRemarks text.toList)) :
    read text = .ok (ofSections (sections.map WrittenSection.entry)) := by
  have many := many_sections sections h
  cases sections with
  | nil =>
    rw [read, h.text_eq_nil]
    rfl
  | cons s sections =>
    have something : trim (withoutRemarks text.toList) ≠ [] := by
      intro none
      have trimmed := h.trimEnd
      rw [trim, h.trimStart] at none
      rw [none] at trimmed
      cases trimmed.eq_nil
    rw [read, if_neg something, h.trimStart, readSections, Reader.many1_of_many many]
    rfl

/-- Every written document is read, also with remarks inserted between its lines. Each title is mapped
to the last section of this title, and each key in it to the field of its last pair. -/
theorem read_of_annotates (sections : List WrittenSection) {annotated : List (List Char)}
    (h : Annotates (splitAtEach '\n' (sections.flatMap WrittenSection.text)) annotated) :
    ∃ document, read (String.ofList (List.intercalate ['\n'] annotated)) = .ok document ∧
      ∀ title, Option.Rel (fun fields s => ∀ key, NameMap.get? key fields = s.field? key)
        (document.get? title) (WrittenSection.last? sections title) := by
  have spaced := spaced_flatMap_text sections
  refine ⟨_, read_of_spaced sections ?_, get?_ofSections sections⟩
  rw [String.toList_ofList, withoutRemarks_of_annotates h spaced.ret_not_mem]
  exact spaced.withoutRemarks

/-- A section of one pair, below a comment. -/
theorem read_of_annotates_comment :
    let s : WrittenSection :=
      { title := ⟨'t', [], .inl rfl, List.forall_mem_nil _⟩
        space := ⟨[' '], List.cons_ne_nil _ _, List.forall_mem_singleton.2 (by decide)⟩
        pairs := [({ key := ⟨'k', [], .inl rfl, List.forall_mem_nil _⟩
                     before := ⟨[], List.forall_mem_nil _⟩
                     after := ⟨[], List.forall_mem_nil _⟩
                     first := ⟨['1'], List.cons_ne_nil _ _, List.forall_mem_singleton.2 (by decide),
                       fun _ hc => Option.some.inj hc ▸ rfl, fun _ hc => Option.some.inj hc ▸ rfl⟩
                     later := [⟨⟨[' '], List.forall_mem_singleton.2 (.inl rfl)⟩,
                       ⟨[], List.forall_mem_nil _⟩,
                       ⟨['a'], List.cons_ne_nil _ _, List.forall_mem_singleton.2 (by decide),
                         fun _ hc => Option.some.inj hc ▸ rfl,
                         fun _ hc => Option.some.inj hc ▸ rfl⟩⟩] },
                   ⟨['\n'], List.cons_ne_nil _ _, List.forall_mem_singleton.2 (by decide)⟩)]
        ne_nil := List.cons_ne_nil _ _ }
    let annotated := ["# 2:3".toList, "t k:1 ,a".toList, []]
    Annotates (splitAtEach '\n' ([s].flatMap WrittenSection.text)) annotated ∧
      ∃ document, read (String.ofList (List.intercalate ['\n'] annotated)) = .ok document ∧
        ∃ fields, document.get? "t" = some fields ∧
          fields.get? "k" = some ⟨"1 ,a", [.integer 1, .text "a"]⟩ := by
  intro s annotated
  have remark : Remark ([] ++ ['#'] ++ [' ', '2', ':', '3']) :=
    .comment (List.forall_mem_nil _) (by decide) (by decide)
  have annotates : Annotates (splitAtEach '\n' ([s].flatMap WrittenSection.text)) annotated :=
    .remark remark (.refl _)
  obtain ⟨document, ok, maps⟩ := read_of_annotates [s] annotates
  have last : WrittenSection.last? [s] "t" = some s := rfl
  have field : s.field? "k" = some ⟨"1 ,a", [.integer 1, .text "a"]⟩ := by decide +kernel
  have found := maps "t"
  rw [last] at found
  cases hd : document.get? "t" with
  | none =>
    rw [hd] at found
    cases found
  | some fields =>
    rw [hd] at found
    cases found with
    | some same => exact ⟨annotates, document, ok, fields, hd, (same "k").trans field⟩

end Document

end PolySurvey
