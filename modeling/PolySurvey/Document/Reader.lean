/-!
# Readers

A reader reads something from the front of a text and leaves a shorter rest, or refuses the text. The
module gives repetition and says that it, too, leaves less.
-/

namespace PolySurvey

/-- What a reader missed where it refused a text. -/
inductive Expected where
  /-- A certain mark, or the first character of a name. -/
  | mark
  /-- At least one character of a value. -/
  | value
deriving DecidableEq, Repr

/-- A refusal: what was missed, and the text from there on. -/
structure Refusal where
  expected : Expected
  rest : List Char
deriving DecidableEq, Repr

/-- A reader takes at least one character when it succeeds. -/
structure Reader (α : Type) where
  /-- Reads from the front of a text. -/
  read : List Char → Except Refusal (α × List Char)
  /-- The rest is shorter than the text. -/
  shorter : ∀ {cs a rest}, read cs = .ok (a, rest) → rest.length < cs.length

namespace Reader

variable {α : Type}

/-- Reads as often as possible. The rest is where the reader refused. -/
def many (r : Reader α) (cs : List Char) : List α × List Char :=
  match h : r.read cs with
  | .ok (a, rest) =>
    have := r.shorter h
    let (as, rest) := r.many rest
    (a :: as, rest)
  | .error _ => ([], cs)
termination_by cs.length

/-- Reads at least once, and then as often as possible. -/
def many1 (r : Reader α) (cs : List Char) : Except Refusal (List α × List Char) := do
  let (a, rest) ← r.read cs
  let (as, rest) := r.many rest
  return (a :: as, rest)

/-- Where a reader reads once, it goes on with what is left. -/
theorem many_of_ok (r : Reader α) {cs rest : List Char} {a : α} (h : r.read cs = .ok (a, rest)) :
    r.many cs = (a :: (r.many rest).1, (r.many rest).2) := by
  rw [many]
  split
  · next b rest' h' =>
    obtain ⟨rfl, rfl⟩ := Prod.mk.inj (Except.ok.inj (h.symm.trans h'))
    rfl
  · next h' => simp [h] at h'

/-- Where a reader reads nothing, nothing is taken. -/
theorem many_of_error (r : Reader α) {cs : List Char} {e : Refusal} (h : r.read cs = .error e) :
    r.many cs = ([], cs) := by
  rw [many]
  split
  · next h' => simp [h] at h'
  · rfl

/-- Reading as often as possible makes no text longer. -/
theorem length_many_le (r : Reader α) (cs : List Char) : (r.many cs).2.length ≤ cs.length := by
  fun_induction many r cs with
  | case1 cs a rest h hlt as rest' hr ih =>
    simp only [hr] at ih
    exact Nat.le_of_lt (Nat.lt_of_le_of_lt ih hlt)
  | case2 => exact Nat.le_refl _

/-- Reading at least once takes characters from the front. -/
theorem length_lt_of_many1 (r : Reader α) {cs rest : List Char} {as : List α}
    (h : r.many1 cs = .ok (as, rest)) : rest.length < cs.length := by
  unfold many1 at h
  cases hr : r.read cs with
  | error e => simp [hr, bind, Except.bind] at h
  | ok p =>
    simp only [hr, bind, Except.bind, pure, Except.pure] at h
    obtain ⟨-, rfl⟩ := Prod.mk.inj (Except.ok.inj h)
    exact Nat.lt_of_le_of_lt (r.length_many_le _) (r.shorter hr)

end Reader

end PolySurvey
