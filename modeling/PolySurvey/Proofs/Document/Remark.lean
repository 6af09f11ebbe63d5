import Mathlib.Tactic.Lemma
import PolySurvey.Document.Comment
import PolySurvey.Document.Grammar

/-!
# What is left without remarks

Remarks inserted between the lines of a text are dropped again, and with them the blank lines of the
text itself. So of a text that consists of chunks with white space between them the chunks are left,
with other white space between them: neither two chunks run together, nor is anything lost from one.
-/

namespace PolySurvey

open Text Grammar

/-- The marks that start a comment. -/
def commentMarks : List (List Char) := [['/', '/'], ['#'], ['%'], [';']]

/-- A blank line, or a comment. -/
inductive Remark : List Char → Prop where
  | blank {line : List Char} : (∀ c ∈ line, isBlank c = true) → '\n' ∉ line → Remark line
  | comment {blanks mark tail : List Char} :
    (∀ c ∈ blanks, isBlank c = true) → mark ∈ commentMarks → '\n' ∉ blanks ++ mark ++ tail →
    Remark (blanks ++ mark ++ tail)

/-- Lines, and the same lines with remarks inserted between them. -/
inductive Annotates : List (List Char) → List (List Char) → Prop where
  | nil : Annotates [] []
  | line {line : List Char} {ls annotated : List (List Char)} :
    Annotates ls annotated → Annotates (line :: ls) (line :: annotated)
  | remark {line : List Char} {ls annotated : List (List Char)} :
    Remark line → Annotates ls annotated → Annotates ls (line :: annotated)

/-- The lines that say something. -/
def said (cs : List Char) : List (List Char) := (lines cs).filter fun line => !isRemark line

/-- A character of some kind is none of another kind. -/
lemma ne_of_kind {kind : Char → Bool} {c d : Char} (h : kind c = true) (hd : kind d = false) :
    c ≠ d := by
  rintro rfl
  rw [h] at hd
  cases hd

/-! ## Trimming -/

/-- Blanks at the end are dropped from the second of two texts if the first does not end in a blank. -/
lemma trimEnd_append {as : List Char} (h : ∀ c ∈ as.getLast?, isBlank c = false)
    (bs : List Char) : trimEnd (as ++ bs) = as ++ trimEnd bs := by
  have keep : as.reverse.dropWhile isBlank = as.reverse := by
    rw [← List.head?_reverse] at h
    cases hr : as.reverse with
    | nil => rfl
    | cons c cs => simp [h c (by rw [hr]; rfl)]
  rw [trimEnd, List.reverse_append, List.dropWhile_append, trimEnd]
  split
  · next empty =>
    rw [keep, List.reverse_reverse, List.isEmpty_iff.1 empty, List.reverse_nil, List.append_nil]
  · rw [List.reverse_append, List.reverse_reverse]

/-- A character that is not blank stays at the front. -/
lemma trimEnd_cons {c : Char} (h : isBlank c = false) (cs : List Char) :
    trimEnd (c :: cs) = c :: trimEnd cs := by
  have single : ∀ d ∈ [c].getLast?, isBlank d = false := by
    rintro _ ⟨⟩
    exact h
  exact trimEnd_append single cs

/-- Blanks at the end are dropped. -/
lemma trimEnd_append_blanks {blanks : List Char} (h : ∀ c ∈ blanks, isBlank c = true)
    (as : List Char) : trimEnd (as ++ blanks) = trimEnd as := by
  have reversed : ∀ c ∈ blanks.reverse, isBlank c = true := fun c hc => h c (List.mem_reverse.1 hc)
  rw [trimEnd, List.reverse_append, List.dropWhile_append_of_pos reversed, trimEnd]

/-- Of blanks nothing is left. -/
lemma trimEnd_blanks {cs : List Char} (h : ∀ c ∈ cs, isBlank c = true) : trimEnd cs = [] :=
  trimEnd_append_blanks h []

/-- Blanks at the front are dropped. -/
lemma trimStart_append {as : List Char} (h : ∀ c ∈ as, isBlank c = true) (bs : List Char) :
    trimStart (as ++ bs) = trimStart bs :=
  List.dropWhile_append_of_pos h

/-- Of blanks nothing is left at the front either. -/
lemma trimStart_blanks {cs : List Char} (h : ∀ c ∈ cs, isBlank c = true) : trimStart cs = [] := by
  have none := trimStart_append h []
  rw [List.append_nil] at none
  exact none

/-- Trimming takes blanks at the end along, also where nothing else is left. -/
lemma trim_append {blanks : List Char} (h : ∀ c ∈ blanks, isBlank c = true) (as : List Char) :
    trim (as ++ blanks) = trim as := by
  rw [trim, trimStart, List.dropWhile_append, trim, trimStart]
  split
  · next empty =>
    have none := trimStart_blanks h
    rw [trimStart] at none
    rw [List.isEmpty_iff.1 empty, none]
  · exact trimEnd_append_blanks h _

/-- A text that begins with no blank stays as it is. -/
lemma trimStart_cons {c : Char} (h : isBlank c = false) (cs : List Char) :
    trimStart (c :: cs) = c :: cs := by
  simp [trimStart, h]

/-! ## Remarks -/

/-- A blank before a line does not make it a remark, nor does it keep it from being one. -/
lemma isRemark_cons {c : Char} (h : isBlank c = true) (line : List Char) :
    isRemark (c :: line) = isRemark line := by
  simp [isRemark, trim, trimStart, h]

/-- The same of any number of blanks. -/
lemma isRemark_append {blanks : List Char} (h : ∀ c ∈ blanks, isBlank c = true)
    (line : List Char) : isRemark (blanks ++ line) = isRemark line := by
  rw [isRemark, trim, trimStart_append h, isRemark, trim]

/-- A text that begins with no blank is trimmed at its end only. -/
lemma trim_cons {c : Char} (h : isBlank c = false) (cs : List Char) :
    trim (c :: cs) = c :: trimEnd cs := by
  rw [trim, trimStart_cons h, trimEnd_cons h]

/-- A carriage return at the end of a line does not matter. -/
lemma isRemark_append_return (line : List Char) : isRemark (line ++ ['\r']) = isRemark line := by
  rw [isRemark, trim_append (List.forall_mem_singleton.2 (by decide)), isRemark]

/-- A remark is one line. -/
lemma Remark.feed {line : List Char} (h : Remark line) : '\n' ∉ line := by
  cases h with
  | blank _ feed => exact feed
  | comment _ _ feed => exact feed

/-- A written remark is seen as one. -/
lemma isRemark_of_remark {line : List Char} (h : Remark line) : isRemark line = true := by
  cases h with
  | @blank line blank _ =>
    rw [← List.append_nil line, isRemark_append blank]
    rfl
  | @comment blanks mark tail blank mem _ =>
    rw [List.append_assoc, isRemark_append blank]
    simp only [commentMarks, List.mem_cons, List.not_mem_nil, or_false] at mem
    rcases mem with rfl | rfl | rfl | rfl
    · rw [isRemark, List.cons_append, trim_cons (by decide), List.cons_append,
        trimEnd_cons (by decide)]
      rfl
    all_goals
      rw [isRemark, List.cons_append, trim_cons (by decide)]
      rfl

/-- What may begin a name may stand in one. -/
lemma isNameRest_of_isNameStart {c : Char} (h : isNameStart c = true) : isNameRest c = true := by
  simp only [isNameStart, isNameRest, Char.isAlphanum, Bool.or_eq_true] at *
  exact h.imp_left .inl

/-- No blank stands in a name. -/
lemma isBlank_of_isNameRest {c : Char} (h : isNameRest c = true) : isBlank c = false := by
  have outside : ∀ n ∈ blankCodes, n < 48 ∨ 122 < n := by decide
  have inside : 48 ≤ c.toNat ∧ c.toNat ≤ 122 := by
    change (decide ('A'.val ≤ c.val ∧ c.val ≤ 'Z'.val) ||
      decide ('a'.val ≤ c.val) && decide (c.val ≤ 'z'.val) ||
      decide ('0'.val ≤ c.val) && decide (c.val ≤ '9'.val) || decide (c = '_')) = true at h
    simp only [Bool.or_eq_true, Bool.and_eq_true, decide_eq_true_eq, UInt32.le_iff_toNat_le] at h
    rcases h with ((⟨low, high⟩ | ⟨low, high⟩) | ⟨low, high⟩) | rfl
    · exact ⟨Nat.le_trans (by decide) low, Nat.le_trans high (by decide)⟩
    · exact ⟨Nat.le_trans (by decide) low, high⟩
    · exact ⟨low, Nat.le_trans high (by decide)⟩
    · decide
  rw [isBlank, List.contains_eq_mem, decide_eq_false_iff_not]
  intro blank
  have := outside _ blank
  omega

/-- No name begins with a blank. -/
lemma isBlank_of_isNameStart {c : Char} (h : isNameStart c = true) : isBlank c = false :=
  isBlank_of_isNameRest (isNameRest_of_isNameStart h)

/-- A line that begins with a name is no remark. -/
lemma isRemark_of_isNameStart {c : Char} (h : isNameStart c = true) (line : List Char) :
    isRemark (c :: line) = false := by
  have slash : c ≠ '/' := ne_of_kind h (by decide)
  have mark : ¬ (c = '#' ∨ c = '%' ∨ c = ';') := by
    rintro (rfl | rfl | rfl) <;> cases h
  rw [isRemark, trim_cons (isBlank_of_isNameStart h)]
  split
  · next eq => cases eq
  · next eq => exact absurd (List.cons.inj eq).1 slash
  · next eq =>
    obtain ⟨rfl, _⟩ := List.cons.inj eq
    simpa [and_assoc] using mark

/-! ## Lines -/

/-- A character that ends no line comes before the first line. -/
lemma lines_cons {c : Char} {cs : List Char} (feed : c ≠ '\n')
    (pair : c = '\r' → cs.head? ≠ some '\n') :
    lines (c :: cs) = (c :: (lines cs).headD []) :: (lines cs).tail := by
  rw [lines]
  · cases lines cs <;> rfl
  · rintro tail rfl rfl
    exact pair rfl rfl
  · exact feed

/-- Characters that end no line come before the first line. -/
lemma lines_append {as bs line : List Char} {rest : List (List Char)} (feed : '\n' ∉ as)
    (ret : '\r' ∉ as) (h : lines bs = line :: rest) : lines (as ++ bs) = (as ++ line) :: rest := by
  induction as with
  | nil => exact h
  | cons a as ih =>
    rw [List.mem_cons, not_or] at feed ret
    have noPair : a = '\r' → (as ++ bs).head? ≠ some '\n' := fun hr => absurd hr.symm ret.1
    rw [List.cons_append, lines_cons (Ne.symm feed.1) noPair, ih feed.2 ret.2]
    rfl

/-- Up to a line feed, a text is one line, perhaps without a carriage return at its end. -/
lemma exists_lines_append_feed {as : List Char} (feed : '\n' ∉ as) (bs : List Char) :
    ∃ line, (line = as ∨ as = line ++ ['\r']) ∧ lines (as ++ '\n' :: bs) = line :: lines bs := by
  induction as with
  | nil => exact ⟨[], .inl rfl, rfl⟩
  | cons a as ih =>
    rw [List.mem_cons, not_or] at feed
    by_cases pair : a = '\r' ∧ as = []
    · obtain ⟨rfl, rfl⟩ := pair
      exact ⟨[], .inr rfl, rfl⟩
    · have noPair : a = '\r' → (as ++ '\n' :: bs).head? ≠ some '\n' := by
        intro hr
        cases as with
        | nil => exact absurd ⟨hr, rfl⟩ pair
        | cons b as => simpa using Ne.symm (List.ne_of_not_mem_cons feed.2)
      obtain ⟨line, chomped, eq⟩ := ih feed.2
      refine ⟨a :: line, chomped.imp (congrArg _) (congrArg _), ?_⟩
      rw [List.cons_append, lines_cons (Ne.symm feed.1) noPair, eq]
      rfl

/-- A text without a line feed is one line. -/
lemma lines_eq_singleton {as : List Char} (feed : '\n' ∉ as) (hne : as ≠ []) :
    lines as = [as] := by
  induction as with
  | nil => exact absurd rfl hne
  | cons a as ih =>
    have noPair : a = '\r' → as.head? ≠ some '\n' := fun _ head =>
      feed (List.mem_cons_of_mem _ (List.mem_of_head? head))
    rw [List.mem_cons, not_or] at feed
    rw [lines_cons (Ne.symm feed.1) noPair]
    cases as with
    | nil => rfl
    | cons b as =>
      rw [ih feed.2 (List.cons_ne_nil b as)]
      rfl

/-- The first of several lines says what it says by itself. -/
lemma said_intercalate_cons {as : List Char} (feed : '\n' ∉ as) (rest : List (List Char)) :
    ∃ line, (line = as ∨ as = line ++ ['\r']) ∧
      said (List.intercalate ['\n'] (as :: rest)) =
        (if isRemark line then [] else [line]) ++ said (List.intercalate ['\n'] rest) := by
  cases rest with
  | nil =>
    refine ⟨as, .inl rfl, ?_⟩
    by_cases hne : as = []
    · subst hne
      rfl
    · rw [List.intercalate_singleton, said, lines_eq_singleton feed hne, List.filter_cons]
      cases isRemark as <;> rfl
  | cons next rest =>
    obtain ⟨line, chomped, eq⟩ := exists_lines_append_feed feed
      (List.intercalate ['\n'] (next :: rest))
    refine ⟨line, chomped, ?_⟩
    rw [List.intercalate_cons_cons, List.append_assoc, List.singleton_append, said, eq,
      List.filter_cons]
    cases isRemark line <;> rfl

/-- What stands before the first of several lines stands before all of them. -/
lemma intercalate_append (separator as line : List Char) (rest : List (List Char)) :
    separator.intercalate ((as ++ line) :: rest) = as ++ separator.intercalate (line :: rest) := by
  cases rest with
  | nil => rw [List.intercalate_singleton, List.intercalate_singleton]
  | cons next rest => simp only [List.intercalate_cons_cons, List.append_assoc]

/-! ## Remarks between the lines -/

/-- Remarks between the lines are dropped. -/
lemma said_of_annotates {ls annotated : List (List Char)} (h : Annotates ls annotated)
    (clean : ∀ line ∈ ls, '\n' ∉ line ∧ '\r' ∉ line) :
    said (List.intercalate ['\n'] annotated) = ls.filter fun line => !isRemark line := by
  induction h with
  | nil => rfl
  | @line line ls annotated h ih =>
    obtain ⟨⟨feed, ret⟩, later⟩ := List.forall_mem_cons.1 clean
    obtain ⟨line, rfl | rfl, eq⟩ := said_intercalate_cons feed annotated
    · rw [eq, ih later, List.filter_cons]
      cases isRemark line <;> rfl
    · exact absurd (by simp) ret
  | @remark line ls annotated remark h ih =>
    obtain ⟨line, chomped, eq⟩ := said_intercalate_cons remark.feed annotated
    have skipped : isRemark line = true := by
      rcases chomped with rfl | rfl
      · exact isRemark_of_remark remark
      · rw [← isRemark_append_return]
        exact isRemark_of_remark remark
    rw [eq, if_pos skipped, List.nil_append, ih clean]

/-- A character of a piece is one of the text, and not the separator. -/
lemma mem_of_mem_splitAtEach {separator c : Char} {cs piece : List Char}
    (h : piece ∈ splitAtEach separator cs) (hc : c ∈ piece) : c ∈ cs ∧ c ≠ separator := by
  induction cs generalizing piece with
  | nil =>
    obtain rfl := List.mem_singleton.1 h
    cases hc
  | cons d cs ih =>
    rw [splitAtEach] at h
    by_cases hd : d = separator
    · rw [if_pos hd] at h
      rcases List.mem_cons.1 h with rfl | h
      · cases hc
      · exact (ih h hc).imp_left (List.mem_cons_of_mem d)
    · cases hs : splitAtEach separator cs with
      | nil => exact absurd hs (splitAtEach_ne_nil separator cs)
      | cons first rest =>
        rw [hs] at h ih
        rw [if_neg hd, List.mem_cons] at h
        rcases h with rfl | h
        · rcases List.mem_cons.1 hc with rfl | hc
          · exact ⟨List.mem_cons_self .., hd⟩
          · exact (ih (List.mem_cons_self ..) hc).imp_left (List.mem_cons_of_mem d)
        · exact (ih (List.mem_cons_of_mem _ h) hc).imp_left (List.mem_cons_of_mem d)

/-- Put together again, the pieces of a text are the text. -/
lemma intercalate_splitAtEach (separator : Char) (cs : List Char) :
    List.intercalate [separator] (splitAtEach separator cs) = cs := by
  induction cs with
  | nil => rfl
  | cons c cs ih =>
    cases hs : splitAtEach separator cs with
    | nil => exact absurd hs (splitAtEach_ne_nil separator cs)
    | cons first rest =>
      rw [hs] at ih
      rw [splitAtEach, hs]
      split
      · next hc => rw [List.intercalate_cons_cons, ih, hc]; rfl
      · exact (intercalate_append [separator] [c] first rest).trans (congrArg (c :: ·) ih)

/-- Lines to which nothing is added. -/
lemma Annotates.refl (ls : List (List Char)) : Annotates ls ls := by
  induction ls with
  | nil => exact .nil
  | cons line ls ih => exact .line ih

/-- Inserted remarks do not change what is left. -/
lemma withoutRemarks_of_annotates {cs : List Char} {annotated : List (List Char)}
    (h : Annotates (splitAtEach '\n' cs) annotated) (ret : '\r' ∉ cs) :
    withoutRemarks (List.intercalate ['\n'] annotated) = withoutRemarks cs := by
  have clean : ∀ line ∈ splitAtEach '\n' cs, '\n' ∉ line ∧ '\r' ∉ line := fun line hl =>
    ⟨fun hc => (mem_of_mem_splitAtEach hl hc).2 rfl, fun hc => ret (mem_of_mem_splitAtEach hl hc).1⟩
  have bare := said_of_annotates (.refl _) clean
  rw [intercalate_splitAtEach] at bare
  rw [withoutRemarks, withoutRemarks, ← said, ← said, said_of_annotates h clean, bare]

/-! ## White space between chunks -/

/-- White space that a document may have between its chunks. -/
def isSpace (c : Char) : Bool := isGap c || c = '\n'

/-- The start of a line that begins with a name. -/
structure IsLineStart (cs : List Char) : Prop where
  first : ∃ c tail, cs = c :: tail ∧ isNameStart c = true
  feed : '\n' ∉ cs
  ret : '\r' ∉ cs

/-- The start of a line that does not end with a blank. -/
structure IsChunk (cs : List Char) : Prop extends IsLineStart cs where
  last : ∀ c ∈ cs.getLast?, isBlank c = false

/-- Chunks with white space after each of them; the last one may go without. -/
inductive Spaced : List (List Char) → List Char → Prop where
  | nil : Spaced [] []
  | cons {chunk space rest : List Char} {chunks : List (List Char)} :
    IsChunk chunk → (∀ c ∈ space, isSpace c = true) → (space = [] → chunks = []) →
    Spaced chunks rest → Spaced (chunk :: chunks) (chunk ++ (space ++ rest))

/-- What is left without remarks are the lines that say something. -/
lemma withoutRemarks_eq (cs : List Char) :
    withoutRemarks cs = List.intercalate ['\n'] (said cs) := rfl

/-- Gaps are blank. -/
lemma isBlank_of_isGap {c : Char} (h : isGap c = true) : isBlank c = true := by
  simp only [isGap, Bool.or_eq_true, decide_eq_true_eq] at h
  rcases h with rfl | rfl <;> decide

/-- A gap ends no line. -/
lemma lines_gap {c : Char} (h : isGap c = true) (cs : List Char) :
    lines (c :: cs) = (c :: (lines cs).headD []) :: (lines cs).tail :=
  lines_cons (ne_of_kind h (by decide)) fun hc => absurd hc (ne_of_kind h (by decide))

/-- A gap before a text stays or goes, and the rest stays as it is. -/
lemma withoutRemarks_gap {c : Char} (h : isGap c = true) (cs : List Char) :
    withoutRemarks (c :: cs) = withoutRemarks cs ∨
      withoutRemarks (c :: cs) = c :: withoutRemarks cs := by
  have blank := isBlank_of_isGap h
  rw [withoutRemarks_eq, withoutRemarks_eq, said, said, lines_gap h]
  cases lines cs with
  | nil =>
    have skipped : isRemark [c] = true := isRemark_cons blank []
    simp [skipped]
  | cons line rest =>
    simp only [List.headD_cons, List.tail_cons, List.filter_cons, isRemark_cons blank line]
    cases isRemark line with
    | true => exact .inl rfl
    | false => exact .inr (intercalate_append _ [c] line _)

/-- Of space, in which no remark stands, space is left. -/
lemma exists_withoutRemarks_space {space : List Char} (h : ∀ c ∈ space, isSpace c = true)
    (rest : List Char) :
    ∃ left, (∀ c ∈ left, isSpace c = true) ∧
      withoutRemarks (space ++ rest) = left ++ withoutRemarks rest := by
  induction space with
  | nil => exact ⟨[], by simp, rfl⟩
  | cons c space ih =>
    obtain ⟨hc, later⟩ := List.forall_mem_cons.1 h
    obtain ⟨left, spaces, eq⟩ := ih later
    by_cases feed : c = '\n'
    · subst feed
      exact ⟨left, spaces, eq⟩
    · have gap : isGap c = true := by simpa [isSpace, feed] using hc
      rcases withoutRemarks_gap gap (space ++ rest) with gone | stays
      · exact ⟨left, spaces, gone.trans eq⟩
      · exact ⟨c :: left, List.forall_mem_cons.2 ⟨hc, spaces⟩, by rw [List.cons_append, stays, eq]; rfl⟩

/-- A text after a chunk: it is empty, or the next chunk is at its front. -/
def Continues (cs : List Char) : Prop := cs = [] ∨ ∃ c tail, cs = c :: tail ∧ isNameStart c = true

/-- A text that begins with a name has a first line that does. -/
lemma exists_lines_cons {c : Char} (h : isNameStart c = true) (cs : List Char) :
    ∃ line rest, lines (c :: cs) = (c :: line) :: rest := by
  have feed : c ≠ '\n' := ne_of_kind h (by decide)
  have ret : c ≠ '\r' := ne_of_kind h (by decide)
  exact ⟨_, _, lines_cons feed fun hc => absurd hc ret⟩

namespace IsLineStart

variable {p : List Char}

/-- A line with a beginning is no remark, whatever follows. -/
lemma isRemark_append (h : IsLineStart p) (line : List Char) :
    isRemark (p ++ line) = false := by
  obtain ⟨⟨c, tail, rfl, hc⟩, _, _⟩ := h
  exact isRemark_of_isNameStart hc _

/-- A gap may follow the beginning of a line. -/
lemma concat (h : IsLineStart p) {c : Char} (hc : isGap c = true) : IsLineStart (p ++ [c]) := by
  obtain ⟨⟨d, tail, rfl, hd⟩, feed, ret⟩ := h
  have single {e : Char} (he : isGap e = false) : e ∉ [c] := by
    simpa using (ne_of_kind hc he).symm
  exact ⟨⟨d, tail ++ [c], rfl, hd⟩, fun mem => (List.mem_append.1 mem).elim feed (single (by decide)),
    fun mem => (List.mem_append.1 mem).elim ret (single (by decide))⟩

/-- A line with a beginning stays when it ends. -/
lemma said_append_feed (h : IsLineStart p) (rest : List Char) :
    said (p ++ '\n' :: rest) = p :: said rest := by
  obtain ⟨line, rfl | rfl, eq⟩ := exists_lines_append_feed h.feed rest
  · have stays := h.isRemark_append []
    rw [List.append_nil] at stays
    rw [said, eq, List.filter_cons, stays]
    rfl
  · exact absurd (by simp) h.ret

/-- The beginning of a line stays, and what follows is looked at by itself. -/
lemma withoutRemarks_append (h : IsLineStart p) {rest : List Char} (hr : Continues rest) :
    withoutRemarks (p ++ rest) = p ++ withoutRemarks rest := by
  rcases hr with rfl | ⟨c, tail, rfl, hc⟩
  · have hne : p ≠ [] := by
      obtain ⟨⟨d, tail, rfl, _⟩, _, _⟩ := h
      exact List.cons_ne_nil d tail
    have stays := h.isRemark_append []
    rw [List.append_nil] at stays ⊢
    rw [withoutRemarks_eq, said, lines_eq_singleton h.feed hne, List.filter_cons, stays]
    exact List.intercalate_singleton.trans (List.append_nil p).symm
  · obtain ⟨line, rest, eq⟩ := exists_lines_cons hc tail
    have stays := h.isRemark_append (c :: line)
    have stays' := isRemark_of_isNameStart hc line
    rw [withoutRemarks_eq, withoutRemarks_eq, said, said, lines_append h.feed h.ret eq, eq,
      List.filter_cons, List.filter_cons, stays, stays']
    exact intercalate_append _ p (c :: line) _

/-- After the start of a line, no white space that is needed goes. -/
lemma exists_withoutRemarks_append (h : IsLineStart p) {space rest : List Char}
    (spaces : ∀ c ∈ space, isSpace c = true) (hr : Continues rest) :
    ∃ left, (∀ c ∈ left, isSpace c = true) ∧
      (left = [] → space = [] ∨ withoutRemarks rest = []) ∧
      withoutRemarks (p ++ (space ++ rest)) = p ++ (left ++ withoutRemarks rest) := by
  induction space generalizing p with
  | nil => exact ⟨[], by simp, fun _ => .inl rfl, h.withoutRemarks_append hr⟩
  | cons c space ih =>
    obtain ⟨hc, later⟩ := List.forall_mem_cons.1 spaces
    -- A line feed ends the line; what follows is looked at without its beginning. Any other space
    -- belongs to the line, and the induction goes on with it.
    by_cases feed : c = '\n'
    · subst feed
      obtain ⟨left, leftSpaces, eq⟩ := exists_withoutRemarks_space later rest
      have here : said (p ++ ('\n' :: space ++ rest)) = p :: said (space ++ rest) :=
        h.said_append_feed _
      rw [withoutRemarks_eq] at eq
      cases more : said (space ++ rest) with
      | nil =>
        rw [more] at eq here
        have gone := List.append_eq_nil_iff.1 eq.symm
        refine ⟨[], by simp, fun _ => .inr gone.2, ?_⟩
        rw [withoutRemarks_eq, here, gone.2, List.intercalate_singleton, List.append_nil,
          List.append_nil]
      | cons line lines =>
        refine ⟨'\n' :: left, List.forall_mem_cons.2 ⟨hc, leftSpaces⟩, by simp, ?_⟩
        rw [withoutRemarks_eq, here, more, List.intercalate_cons_cons, ← more, eq, List.append_assoc]
        rfl
    · have gap : isGap c = true := by simpa [isSpace, feed] using hc
      obtain ⟨left, leftSpaces, _, eq⟩ := ih (h.concat gap) later
      refine ⟨c :: left, List.forall_mem_cons.2 ⟨hc, leftSpaces⟩, by simp, ?_⟩
      simpa using eq

end IsLineStart

/-- What is written in chunks may follow the beginning of a line. -/
lemma Spaced.continues {chunks : List (List Char)} {cs : List Char} (h : Spaced chunks cs) :
    Continues cs := by
  cases h with
  | nil => exact .inl rfl
  | cons chunkOk _ _ _ =>
    obtain ⟨c, tail, rfl, hc⟩ := chunkOk.first
    exact .inr ⟨c, _, rfl, hc⟩

/-- Where nothing is written there are no chunks. -/
lemma Spaced.eq_nil {chunks : List (List Char)} (h : Spaced chunks []) : chunks = [] := by
  generalize eq : ([] : List Char) = cs at h
  cases h with
  | nil => rfl
  | cons chunkOk _ _ _ =>
    obtain ⟨c, tail, rfl, _⟩ := chunkOk.first
    cases eq

/-- No carriage return stands in chunks and the space between them. -/
lemma Spaced.ret_not_mem {chunks : List (List Char)} {cs : List Char} (h : Spaced chunks cs) :
    '\r' ∉ cs := by
  induction h with
  | nil => exact List.not_mem_nil
  | cons chunkOk spaces _ _ ih =>
    simp only [List.mem_append, not_or]
    exact ⟨chunkOk.ret, fun hc => ne_of_kind (spaces _ hc) (by decide) rfl, ih⟩

/-- Chunks with white space between them are chunks with white space between them when the remarks
are dropped. -/
lemma Spaced.withoutRemarks {chunks : List (List Char)} {cs : List Char} (h : Spaced chunks cs) :
    Spaced chunks (withoutRemarks cs) := by
  induction h with
  | nil => exact .nil
  | cons chunkOk spaces apart h ih =>
    obtain ⟨left, leftSpaces, needed, eq⟩ :=
      chunkOk.exists_withoutRemarks_append spaces h.continues
    rw [eq]
    refine .cons chunkOk leftSpaces (fun none => ?_) ih
    rcases needed none with gone | gone
    · exact apart gone
    · rw [gone] at ih
      exact ih.eq_nil

end PolySurvey
