import Mathlib.Data.List.Induction
import Mathlib.Data.List.Nodup
import Mathlib.Tactic.Lemma
import PolySurvey.Document.Basic

/-!
# The maps of a document

A map that is put together from a list of entries has each name once, and under a name it has the last
entry of that name. So has a document, for its titles, and each of its sections, for its keys.
-/

namespace PolySurvey

namespace NameMap

variable {α : Type}

/-- No name occurs twice. -/
def Distinct (map : NameMap α) : Prop := (map.map Prod.fst).Nodup

instance (map : NameMap α) : Decidable map.Distinct :=
  inferInstanceAs (Decidable (List.Nodup _))

/-- What the last entry of a name gives. -/
def lastOf (name : String) (entries : List (String × α)) : Option α :=
  (entries.reverse.find? fun entry => entry.1 = name).map Prod.snd

/-- The last of a name among things that are turned into entries. -/
lemma lastOf_map {β : Type} (f : β → String × α) (name : String) (bs : List β) :
    lastOf name (bs.map f) =
      (bs.reverse.find? fun b => (f b).1 = name).map fun b => (f b).2 := by
  rw [lastOf, ← List.map_reverse, List.find?_map, Option.map_map]
  rfl

/-- The names after an entry is put are those of before and the new one. -/
lemma mem_names_put (map : NameMap α) (name other : String) (a : α) :
    other ∈ (map.put name a).map Prod.fst ↔ other = name ∨ other ∈ map.map Prod.fst := by
  induction map with
  | nil => simp [put]
  | cons entry rest ih =>
    obtain ⟨n, b⟩ := entry
    by_cases hn : n = name
    · simp [put, hn]
    · rw [put, if_neg hn, List.map_cons, List.mem_cons, ih, List.map_cons, List.mem_cons,
        or_left_comm]

/-- No name occurs twice after an entry is put. -/
lemma Distinct.put {map : NameMap α} (h : map.Distinct) (name : String) (a : α) :
    (map.put name a).Distinct := by
  induction map with
  | nil => exact List.nodup_singleton name
  | cons entry rest ih =>
    obtain ⟨n, b⟩ := entry
    obtain ⟨new, distinct⟩ := List.nodup_cons.1 h
    by_cases hn : n = name
    · rw [NameMap.put, if_pos hn]
      exact List.nodup_cons.2 ⟨hn ▸ new, distinct⟩
    · rw [NameMap.put, if_neg hn]
      refine List.nodup_cons.2 ⟨fun mem => ?_, ih distinct⟩
      exact ((mem_names_put ..).1 mem).elim hn new

/-- The last entry of a list is put last. -/
lemma ofList_concat (entries : List (String × α)) (entry : String × α) :
    ofList (entries ++ [entry]) = (ofList entries).put entry.1 entry.2 :=
  List.foldl_concat ..

/-- A map that is made from entries holds the last entry of each name. -/
lemma get?_ofList (entries : List (String × α)) (name : String) :
    (ofList entries).get? name = lastOf name entries := by
  induction entries using List.reverseRecOn with
  | nil => rfl
  | append_singleton entries entry ih =>
    rw [ofList_concat, get?_put, ih, lastOf, lastOf, List.reverse_concat, List.find?_cons]
    by_cases same : entry.1 = name <;> simp [same]

/-- No name occurs twice in a map that is made from entries. -/
lemma distinct_ofList (entries : List (String × α)) : (ofList entries).Distinct := by
  induction entries using List.reverseRecOn with
  | nil => exact List.nodup_nil
  | append_singleton entries entry ih =>
    rw [ofList_concat]
    exact ih.put ..

/-- Where no name occurs twice, what is found is what is there. -/
lemma get?_eq_some_iff_mem {map : NameMap α} (h : map.Distinct) {name : String} {a : α} :
    map.get? name = some a ↔ (name, a) ∈ map := by
  induction map with
  | nil => exact ⟨nofun, nofun⟩
  | cons entry rest ih =>
    obtain ⟨n, b⟩ := entry
    obtain ⟨new, distinct⟩ := List.nodup_cons.1 h
    rw [get?, List.mem_cons, Prod.mk.injEq]
    by_cases hn : n = name
    · subst hn
      have gone : (n, a) ∉ rest := fun mem => new (List.mem_map.2 ⟨_, mem, rfl⟩)
      simp [gone, eq_comm]
    · simp [hn, Ne.symm hn, ih distinct]

/-- The last entry of a name is one of the entries. -/
lemma mem_of_lastOf {entries : List (String × α)} {name : String} {a : α}
    (h : lastOf name entries = some a) : (name, a) ∈ entries := by
  obtain ⟨⟨n, b⟩, found, rfl⟩ := Option.map_eq_some_iff.1 h
  obtain rfl : n = name := by simpa using List.find?_some found
  exact List.mem_reverse.1 (List.mem_of_find?_eq_some found)

/-- The entries of a map are the last ones of their names. -/
lemma mem_ofList_iff {entries : List (String × α)} {name : String} {a : α} :
    (name, a) ∈ ofList entries ↔ lastOf name entries = some a := by
  rw [← get?_eq_some_iff_mem (distinct_ofList entries), get?_ofList]

end NameMap

namespace Document

/-- No title occurs twice, and no key in a section. -/
structure Distinct (d : Document) : Prop where
  titles : NameMap.Distinct d
  keys : ∀ s ∈ d, NameMap.Distinct s.2

/-- The field of a key under a title. -/
def field? (d : Document) (title key : String) : Option Field :=
  (NameMap.get? title d).bind (NameMap.get? key)

variable {sections : List (String × List (String × Field))}

/-- A document has under each title the pairs of the last section of this title. -/
lemma get?_ofSections_eq (title : String) :
    (ofSections sections).get? title = (NameMap.lastOf title sections).map NameMap.ofList := by
  rw [ofSections, NameMap.get?_ofList, NameMap.lastOf_map, NameMap.lastOf, Option.map_map]
  rfl

/-- No title of a document that is made from sections occurs twice, and no key under it. -/
lemma distinct_ofSections : (ofSections sections).Distinct where
  titles := NameMap.distinct_ofList _
  keys := by
    rintro ⟨title, fields⟩ mem
    have found := NameMap.mem_of_lastOf (NameMap.mem_ofList_iff.1 mem)
    obtain ⟨⟨_, pairs⟩, _, eq⟩ := List.mem_map.1 found
    obtain ⟨-, rfl⟩ := Prod.mk.inj eq
    exact NameMap.distinct_ofList pairs

/-- A document has the last field of a key in the last section of a title. -/
lemma field?_ofSections (title key : String) :
    (ofSections sections).field? title key =
      (NameMap.lastOf title sections).bind (NameMap.lastOf key) := by
  rw [field?, get?_ofSections_eq, Option.bind_map]
  congr 1
  funext pairs
  exact NameMap.get?_ofList pairs key

end Document

end PolySurvey
