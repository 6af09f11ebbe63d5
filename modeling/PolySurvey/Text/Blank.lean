/-!
# Blanks and lines

A blank is a character with the Unicode property `White_Space`. Numbers are compacted by removing
every blank, names are trimmed of blanks at both ends, and a document is cut into lines. The main
statement says that compacting leaves no blank behind.
-/

namespace PolySurvey.Text

/-- The characters with the property `White_Space`, as code points. -/
def blankCodes : List Nat :=
  [0x09, 0x0A, 0x0B, 0x0C, 0x0D, 0x20, 0x85, 0xA0, 0x1680, 0x2000, 0x2001, 0x2002, 0x2003, 0x2004,
    0x2005, 0x2006, 0x2007, 0x2008, 0x2009, 0x200A, 0x2028, 0x2029, 0x202F, 0x205F, 0x3000]

/-- Whether a character is white space. -/
def isBlank (c : Char) : Bool :=
  blankCodes.contains c.toNat

/-- The text without its blanks. -/
def compact (cs : List Char) : List Char :=
  cs.filter fun c => !isBlank c

/-- The text without the blanks it starts with. -/
def trimStart (cs : List Char) : List Char :=
  cs.dropWhile isBlank

/-- The text without the blanks it ends with. -/
def trimEnd (cs : List Char) : List Char :=
  (cs.reverse.dropWhile isBlank).reverse

/-- The text without the blanks at either end. -/
def trim (cs : List Char) : List Char :=
  trimEnd (trimStart cs)

/-- The lines of a text. A line feed ends a line and takes one carriage return before it along; what
follows the last line feed is a line only if it is not empty. -/
def lines : List Char → List (List Char)
  | [] => []
  | '\r' :: '\n' :: cs => [] :: lines cs
  | '\n' :: cs => [] :: lines cs
  | c :: cs =>
    match lines cs with
    | [] => [[c]]
    | line :: rest => (c :: line) :: rest

/-- The pieces between the occurrences of a separator; there is always at least one. -/
def splitAtEach (separator : Char) : List Char → List (List Char)
  | [] => [[]]
  | c :: cs =>
    if c = separator then
      [] :: splitAtEach separator cs
    else
      match splitAtEach separator cs with
      | [] => [[c]]
      | piece :: rest => (c :: piece) :: rest

/-- No blank is left in a compacted text. -/
theorem isBlank_eq_false_of_mem_compact {c : Char} {cs : List Char} (h : c ∈ compact cs) :
    isBlank c = false := by
  simpa using (List.mem_filter.1 h).2

/-- Compacting a text that has no blank changes nothing. -/
theorem compact_eq_self {cs : List Char} (h : ∀ c ∈ cs, isBlank c = false) : compact cs = cs :=
  List.filter_eq_self.2 fun c hc => by simp [h c hc]

/-- Trimming a text that has no blank changes nothing. -/
theorem trim_eq_self {cs : List Char} (h : ∀ c ∈ cs, isBlank c = false) : trim cs = cs := by
  have dropWhile {ds : List Char} (hd : ∀ c ∈ ds, isBlank c = false) :
      ds.dropWhile isBlank = ds := by
    cases ds with
    | nil => rfl
    | cons d ds => exact List.dropWhile_cons_of_neg (by simp [hd d (List.mem_cons_self ..)])
  rw [trim, trimStart, dropWhile h, trimEnd, dropWhile fun c hc => h c (List.mem_reverse.1 hc),
    List.reverse_reverse]

/-- Texts may be compacted one by one. -/
theorem compact_append (as bs : List Char) : compact (as ++ bs) = compact as ++ compact bs :=
  List.filter_append ..

/-- A text that is split has at least one piece. -/
theorem splitAtEach_ne_nil (separator : Char) (cs : List Char) : splitAtEach separator cs ≠ [] := by
  cases cs with
  | nil => simp [splitAtEach]
  | cons c cs =>
    rw [splitAtEach]
    split
    · simp
    · split <;> simp

end PolySurvey.Text
