import Mathlib.Data.List.Basic
import Mathlib.Tactic.Lemma

/-!
# Patterns and what they find

A pattern with groups can match the front of a text in several ways. They are listed in the order in
which a search prefers them: the first alternative before the second, and one more repetition before
none. The first way is the match. A search finds the matches in a text one after the other, each at
the earliest place behind the one before it where there is a match.
-/

namespace PolySurvey

/-- The parts of a match that are kept. -/
inductive GroupName where
  | coefficient
  | exponent
  | constant
deriving DecidableEq, Repr

/-- A regular expression with groups. -/
inductive Pattern where
  | empty
  /-- One character of a kind. -/
  | char (kind : Char → Bool)
  | seq (p q : Pattern)
  /-- One of two patterns, rather the first. -/
  | alt (p q : Pattern)
  /-- Any number of repetitions, rather more. -/
  | star (p : Pattern)
  | group (name : GroupName) (p : Pattern)

/-- A way to match the front of a text. -/
structure Found where
  taken : List Char
  rest : List Char
  /-- The texts of the groups, in the order in which they end. -/
  groups : List (GroupName × List Char)
deriving DecidableEq

namespace Found

/-- What takes nothing from a text. -/
def nothing (cs : List Char) : Found := ⟨[], cs, []⟩

/-- One match and another in the rest that it leaves. -/
def andThen (f g : Found) : Found := ⟨f.taken ++ g.taken, g.rest, f.groups ++ g.groups⟩

/-- A match whose text is kept. -/
def close (name : GroupName) (f : Found) : Found :=
  { f with groups := f.groups ++ [(name, f.taken)] }

end Found

namespace Pattern

/-- Repetitions, each of which takes at least one character. -/
def repeats (ways : List Char → List Found) (cs : List Char) : List Found :=
  (ways cs).flatMap (fun f =>
    if f.rest.length < cs.length then (repeats ways f.rest).map f.andThen else []) ++ [.nothing cs]
termination_by cs.length

/-- The ways in which a pattern matches the front of a text, from the most to the least preferred. -/
def ways : Pattern → List Char → List Found
  | empty, cs => [.nothing cs]
  | char _, [] => []
  | char kind, c :: cs => if kind c then [⟨[c], cs, []⟩] else []
  | seq p q, cs => (ways p cs).flatMap fun f => (ways q f.rest).map f.andThen
  | alt p q, cs => ways p cs ++ ways q cs
  | star p, cs => repeats (ways p) cs
  | group name p, cs => (ways p cs).map (Found.close name)

/-- The match of a pattern at the front of a text. -/
def first? (p : Pattern) (cs : List Char) : Option Found := (p.ways cs).head?

/-- The pattern of one character. -/
def literal (c : Char) : Pattern := char (· == c)

/-- A pattern or, less preferred, nothing. -/
def optional (p : Pattern) : Pattern := alt p empty

/-- At least one repetition. -/
def plus (p : Pattern) : Pattern := seq p (star p)

/-- A match and the place where it starts. -/
structure Match where
  start : Nat
  text : List Char
  groups : List (GroupName × List Char)

/-- The matches that a search finds in a text which begins at a place. Each starts as early as it can,
and the next is looked for in what it leaves. -/
inductive Searches (p : Pattern) : Nat → List Char → List Match → Prop where
  | done {start : Nat} {cs : List Char} (none : ∀ i, p.first? (cs.drop i) = none) :
      Searches p start cs []
  | next {start i : Nat} {cs : List Char} {f : Found} {ms : List Match}
      (earlier : ∀ j < i, p.first? (cs.drop j) = none) (first : p.first? (cs.drop i) = some f)
      (later : Searches p (start + i + f.taken.length) f.rest ms) :
      Searches p start cs (⟨start + i, f.taken, f.groups⟩ :: ms)

variable {p q : Pattern} {cs : List Char} {f : Found}

/-! ## All ways -/

/-- A character is taken if it is of the kind. -/
lemma mem_ways_char {kind : Char → Bool} :
    f ∈ (char kind).ways cs ↔ ∃ c rest, cs = c :: rest ∧ kind c = true ∧ f = ⟨[c], rest, []⟩ := by
  cases cs with
  | nil => simp [ways]
  | cons c rest =>
    by_cases hc : kind c = true <;> simp [ways, hc]

/-- The ways of a sequence take one pattern and then the other. -/
lemma mem_ways_seq :
    f ∈ (seq p q).ways cs ↔ ∃ g ∈ p.ways cs, ∃ l ∈ q.ways g.rest, g.andThen l = f := by
  simp [ways]

/-- An optional pattern is taken in one of its ways, or not at all. -/
lemma mem_ways_optional : f ∈ (optional p).ways cs ↔ f ∈ p.ways cs ∨ f = .nothing cs := by
  simp [optional, ways]

/-- A group is taken as its pattern is, and remembered. -/
lemma mem_ways_group {name : GroupName} :
    f ∈ (group name p).ways cs ↔ ∃ g ∈ p.ways cs, g.close name = f := by
  simp [ways]

/-- A star takes its pattern, something of it, and goes on; at last it takes nothing. -/
lemma ways_star (p : Pattern) (cs : List Char) :
    (star p).ways cs = (p.ways cs).flatMap (fun f =>
      if f.rest.length < cs.length then ((star p).ways f.rest).map f.andThen else []) ++
        [.nothing cs] := by
  rw [ways, repeats]
  rfl

/-- Repetitions are built from nothing by putting one more in front. -/
lemma star_induction {motive : List Char → Found → Prop} (nothing : ∀ cs, motive cs (.nothing cs))
    (more : ∀ cs, ∀ g ∈ p.ways cs, ∀ l, motive g.rest l → motive cs (g.andThen l))
    (h : f ∈ (star p).ways cs) : motive cs f := by
  induction n : cs.length using Nat.strongRecOn generalizing cs f with
  | _ n ih =>
    subst n
    rw [ways_star, List.mem_append, List.mem_flatMap, List.mem_singleton] at h
    rcases h with ⟨g, hg, h⟩ | rfl
    · split at h
      · next less =>
        obtain ⟨l, hl, rfl⟩ := List.mem_map.1 h
        exact more cs g hg l (ih _ less hl rfl)
      · cases h
    · exact nothing cs

/-- What is taken and the rest are the text. -/
lemma append_of_mem_ways (h : f ∈ p.ways cs) : f.taken ++ f.rest = cs := by
  induction p generalizing cs f with
  | empty =>
    obtain rfl := List.mem_singleton.1 h
    rfl
  | char kind =>
    obtain ⟨c, rest, rfl, _, rfl⟩ := mem_ways_char.1 h
    rfl
  | seq p q ihp ihq =>
    obtain ⟨g, hg, l, hl, rfl⟩ := mem_ways_seq.1 h
    rw [Found.andThen, List.append_assoc, ihq hl, ihp hg]
  | alt p q ihp ihq => exact (List.mem_append.1 h).elim ihp ihq
  | star p ih =>
    refine star_induction (motive := fun cs f => f.taken ++ f.rest = cs) (fun _ => rfl) ?_ h
    intro cs g hg l hl
    rw [Found.andThen, List.append_assoc, hl, ih hg]
  | group name p ih =>
    obtain ⟨g, hg, rfl⟩ := mem_ways_group.1 h
    show g.taken ++ g.rest = cs
    exact ih hg

/-! ## The first way -/

/-- There is no first way where there is none. -/
lemma first?_eq_none_iff : p.first? cs = none ↔ p.ways cs = [] := List.head?_eq_none_iff

/-- The first way of an alternative is that of its first branch that has one. -/
lemma first?_alt : (alt p q).first? cs = (p.first? cs).or (q.first? cs) := List.head?_append

/-- The first way of an optional pattern is that of the pattern, if it has one. -/
lemma first?_optional : (optional p).first? cs = some ((p.first? cs).getD (.nothing cs)) := by
  rw [optional, first?_alt]
  cases p.first? cs <;> rfl

/-- The first way of a group is that of its pattern. -/
lemma first?_group (name : GroupName) :
    (group name p).first? cs = (p.first? cs).map (Found.close name) := List.head?_map

/-- If the rest after the first way cannot be matched, and then neither can the rest after another,
the match of a sequence begins with the first way. -/
lemma first?_seq (first : p.first? cs = some f)
    (only : q.ways f.rest = [] → ∀ g ∈ p.ways cs, q.ways g.rest = []) :
    (seq p q).first? cs = (q.first? f.rest).map f.andThen := by
  cases found : q.first? f.rest with
  | none =>
    have none := only (first?_eq_none_iff.1 found)
    refine first?_eq_none_iff.2 (List.flatMap_eq_nil_iff.2 fun g hg => ?_)
    rw [none g hg, List.map_nil]
  | some g =>
    obtain ⟨fs, ways⟩ := List.head?_eq_some_iff.1 first
    rw [first?, Pattern.ways, ways, List.flatMap_cons, List.head?_append, List.head?_map,
      ← first?, found]
    rfl

/-- Where the rest of the pattern can only be matched behind what the first way takes, the match of
a sequence begins with the first way. -/
lemma first?_seq_of_rest (first : p.first? cs = some f)
    (only : ∀ g ∈ p.ways cs, q.ways g.rest ≠ [] → f.rest = g.rest) :
    (seq p q).first? cs = (q.first? f.rest).map f.andThen := by
  refine first?_seq first fun none g hg => ?_
  by_contra some
  exact some (only g hg some ▸ none)

/-- A sequence has no way where its first pattern has none. -/
lemma first?_seq_of_none (h : p.first? cs = none) : (seq p q).first? cs = none := by
  rw [first?, ways, first?_eq_none_iff.1 h]
  rfl

/-- A character is taken in one way at most. -/
lemma first?_char (kind : Char → Bool) (c : Char) (cs : List Char) :
    (char kind).first? (c :: cs) = if kind c then some ⟨[c], cs, []⟩ else none := by
  rw [first?, ways]
  split <;> rfl

/-- A sequence that begins with a character is decided by it. -/
lemma first?_seq_char (kind : Char → Bool) (q : Pattern) (c : Char) (cs : List Char) :
    (seq (char kind) q).first? (c :: cs) =
      if kind c then (q.first? cs).map (Found.andThen ⟨[c], cs, []⟩) else none := by
  have first := first?_char kind c cs
  split
  · next hc =>
    rw [if_pos hc] at first
    refine first?_seq first fun none g hg => ?_
    obtain ⟨_, _, eq, _, rfl⟩ := mem_ways_char.1 hg
    cases eq
    exact none
  · next hc =>
    rw [if_neg hc] at first
    exact first?_seq_of_none first

/-- A star takes nothing where its pattern has no way. -/
lemma first?_star_of_none (h : p.first? cs = none) : (star p).first? cs = some (.nothing cs) := by
  rw [first?, ways_star, first?_eq_none_iff.1 h]
  rfl

/-- A star always has a way. -/
lemma first?_star_ne_none (p : Pattern) (cs : List Char) : (star p).first? cs ≠ none := by
  rw [Ne, first?_eq_none_iff, ways_star]
  exact List.append_ne_nil_of_right_ne_nil _ (List.cons_ne_nil _ _)

/-- A star takes the first way of its pattern and goes on, if something was taken. -/
lemma first?_star_of_some (h : p.first? cs = some f) (less : f.rest.length < cs.length) :
    (star p).first? cs = ((star p).first? f.rest).map f.andThen := by
  obtain ⟨fs, ways⟩ := List.head?_eq_some_iff.1 h
  obtain ⟨g, found⟩ := Option.ne_none_iff_exists'.1 (first?_star_ne_none p f.rest)
  rw [first?, ways_star, ways, List.flatMap_cons, if_pos less, List.append_assoc, List.head?_append,
    List.head?_map, ← first?, found]
  rfl

/-! ## Searching -/

/-- Where nothing matches, the search goes on with the next character. -/
lemma searches_cons {c : Char} {start : Nat} {ms : List Match} (none : p.first? (c :: cs) = none)
    (h : p.Searches (start + 1) cs ms) : p.Searches start (c :: cs) ms := by
  cases h with
  | done none' =>
    refine .done fun i => ?_
    cases i with
    | zero => exact none
    | succ i => exact none' i
  | @next _ i _ f ms earlier first later =>
    rw [Nat.add_right_comm start 1 i, Nat.add_assoc start i 1] at later ⊢
    refine .next (i := i + 1) (fun j hj => ?_) first later
    cases j with
    | zero => exact none
    | succ j => exact earlier j (Nat.lt_of_succ_lt_succ hj)

/-- A search finds one list of matches only. -/
lemma Searches.unique {start : Nat} {ms ms' : List Match} (h : p.Searches start cs ms)
    (h' : p.Searches start cs ms') : ms = ms' := by
  induction h generalizing ms' with
  | done none =>
    cases h' with
    | done _ => rfl
    | next _ first _ =>
      rw [none] at first
      cases first
  | @next start i cs f ms earlier first later ih =>
    cases h' with
    | done none =>
      rw [none] at first
      cases first
    | @next _ i' _ f' ms' earlier' first' later' =>
      -- Both searches stop at the first place with a match.
      obtain rfl : i = i' := by
        rcases Nat.lt_trichotomy i i' with lt | eq | lt
        · rw [earlier' i lt] at first
          cases first
        · exact eq
        · rw [earlier i' lt] at first'
          cases first'
      obtain rfl := Option.some.inj (first.symm.trans first')
      rw [ih later']

end Pattern

end PolySurvey
