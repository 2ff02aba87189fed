import SqlExpr.Proofs.State.Erase

/-!
This module contains what all visible bindings of a state are in one frame. They are what look-ups
find (`State.get?_compact`), and overwriting a binding overwrites it there as well
(`State.compact_set`).
-/

namespace SqlExpr

theorem Entries.lookup_append {α : Type} (name : String) (entries entries' : List (String × α)) :
    lookup name (entries ++ entries') = (lookup name entries).or (lookup name entries') := by
  induction entries with
  | nil => rfl
  | cons entry rest ih =>
    simp only [List.cons_append, lookup]
    split
    . rfl
    . exact ih

namespace NameMap

variable {α : Type} {map map' : NameMap α} {name : String} {value : α}
  {bindings : List (String × α)}

/--
Of several bindings of one name the last one stays.
-/
theorem get?_insertAll (map : NameMap α) (bindings : List (String × α)) (name : String) :
    (map.insertAll bindings).get? name
      =
    (Entries.lookup name bindings.reverse).or (map.get? name) := by
  induction bindings generalizing map with
  | nil => rfl
  | cons binding rest ih =>
    rw [insertAll_cons, ih, get?_insert, List.reverse_cons, Entries.lookup_append, Option.or_assoc]
    congr 1
    by_cases h : name = binding.1
    . simp [Entries.lookup, h]
    . simp [Entries.lookup, h, Ne.symm h]

theorem get?_insertAll_of_notMem (h : name ∉ bindings.map Prod.fst) (map : NameMap α) :
    (map.insertAll bindings).get? name = map.get? name := by
  have hlookup : Entries.lookup name bindings.reverse = none := by
    rw [← Option.not_isSome_iff_eq_none, ← Entries.mem_map_fst_iff, List.map_reverse,
      List.mem_reverse]
    exact h
  rw [get?_insertAll, hlookup, Option.none_or]

theorem get?_insertAll_entries (map map' : NameMap α) (name : String) :
    (map.insertAll map'.entries).get? name = (map'.get? name).or (map.get? name) := by
  cases h : map'.get? name with
  | none =>
    have hmem : name ∉ map'.names := by simp [mem_names_iff, h]
    rw [get?_insertAll_of_notMem hmem, Option.none_or]
  | some value =>
    obtain ⟨before, behind, hentries, _, hbehind, _⟩ := exists_entries_of_get? h
    rw [hentries, insertAll_append, insertAll_cons, get?_insertAll_of_notMem hbehind,
      get?_insert_self, Option.some_or]

/--
Writing a binding over what is written from a map is writing from the map with this binding.
-/
theorem insertAll_entries_insert (h : (map'.get? name).isSome) (map : NameMap α) (value : α) :
    map.insertAll (map'.insert name value).entries
      =
    (map.insertAll map'.entries).insert name value := by
  obtain ⟨old, hold⟩ := Option.isSome_iff_exists.1 h
  obtain ⟨before, behind, hentries, _, hbehind, _, hinsert⟩ := exists_entries_of_get? hold
  rw [hentries, hinsert, insertAll_append, insertAll_append, insertAll_cons, insertAll_cons]
  rw [← insertAll_insert (by simp) hbehind, insert_insert]

/--
A binding that is written first need not be written again, if its name is bound.
-/
theorem insertAll_entries_erase (h : (map.get? name).isSome) (h' : map'.get? name = some value) :
    (map.insert name value).insertAll (map'.erase name).entries = map.insertAll map'.entries := by
  obtain ⟨before, behind, hentries, hbefore, _, herase, _⟩ := exists_entries_of_get? h'
  rw [hentries, herase, insertAll_append, insertAll_append, insertAll_cons]
  rw [insertAll_insert h hbefore]

end NameMap

namespace State

theorem get?_compact (s : State) (name : String) : s.compact.get? name = s.get? name := by
  induction s with
  | root frame => rfl
  | inner frame outer ih => rw [compact, NameMap.get?_insertAll_entries, ih, get?]

theorem compact_set {s : State} {name : String} (h : (s.get? name).isSome) (a : Attribute) :
    (s.set name a).compact = s.compact.insert name a := by
  induction s with
  | root frame =>
    rw [set_root]
    rfl
  | inner frame outer ih =>
    cases hframe : frame.get? name with
    | some old =>
      have hbound : (frame.get? name).isSome := by simp [hframe]
      rw [set_inner_of_bound hbound, compact, compact, NameMap.insertAll_entries_insert hbound]
    | none =>
      have houter : (outer.get? name).isSome := by simpa [get?, hframe] using h
      rw [set_inner_of_shared hframe houter, compact, compact, ih houter]
      apply NameMap.insertAll_insert
      . rw [get?_compact]
        exact houter
      . change name ∉ frame.names
        simp [NameMap.mem_names_iff, hframe]

end State

end SqlExpr
