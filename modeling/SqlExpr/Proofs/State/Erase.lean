import Mathlib.Data.List.Nodup
import SqlExpr.Proofs.State.Write

/-!
This module contains frames without one of their bindings (`NameMap.erase`), and what writes come to
in another order. A map that binds a name is split at its one entry for this name
(`NameMap.exists_entries_of_get?`).
-/

namespace SqlExpr

namespace Entries

variable {α : Type} {name other : String} {entries before behind : List (String × α)}

def erase (name : String) (entries : List (String × α)) : List (String × α) :=
  entries.filter (·.1 ≠ name)

theorem erase_cons (name : String) (entry : String × α) (entries : List (String × α)) :
    erase name (entry :: entries)
      =
    if entry.1 = name then erase name entries else entry :: erase name entries := by
  by_cases h : entry.1 = name <;> simp [erase, h]

theorem erase_of_notMem (h : name ∉ entries.map Prod.fst) : erase name entries = entries := by
  unfold erase
  rw [List.filter_eq_self]
  intro entry hentry
  rw [decide_eq_true_eq]
  intro heq
  exact h (heq ▸ List.mem_map_of_mem hentry)

theorem lookup_erase (name other : String) (entries : List (String × α)) :
    lookup other (erase name entries) = if other = name then none else lookup other entries := by
  induction entries with
  | nil => simp [erase, lookup]
  | cons entry rest ih => grind [erase_cons, lookup]

theorem erase_insert (name : String) (value : α) (entries : List (String × α)) :
    erase name (insert name value entries) = erase name entries := by
  induction entries with
  | nil => simp [insert, erase]
  | cons entry rest ih => grind [erase_cons, insert]

theorem erase_insert_of_ne (h : other ≠ name) (value : α) (entries : List (String × α)) :
    erase name (insert other value entries) = insert other value (erase name entries) := by
  induction entries with
  | nil => simp [insert, erase, h]
  | cons entry rest ih => grind [erase_cons, insert]

theorem insert_append_of_notMem (h : name ∉ before.map Prod.fst) (old new : α) :
    insert name new (before ++ (name, old) :: behind) = before ++ (name, new) :: behind := by
  induction before with
  | nil => simp [insert]
  | cons entry before ih =>
    rw [List.map_cons, List.mem_cons, not_or] at h
    rw [List.cons_append, insert, if_neg (Ne.symm h.1), ih h.2, List.cons_append]

theorem insert_comm (h : name ∈ entries.map Prod.fst) (hne : other ≠ name) (value value' : α) :
    insert other value' (insert name value entries)
      =
    insert name value (insert other value' entries) := by
  induction entries with
  | nil => cases h
  | cons entry rest ih => grind [insert]

end Entries

namespace NameMap

variable {α : Type} {map map' : NameMap α} {name other : String} {value : α}
  {bindings bindings' : List (String × α)}

theorem entries_inj : map.entries = map'.entries ↔ map = map' := by
  cases map
  cases map'
  simp

/--
A map without its entry for a name.
-/
def erase (map : NameMap α) (name : String) : NameMap α :=
  ⟨Entries.erase name map.entries, map.nodup.sublist (List.filter_sublist.map Prod.fst)⟩

theorem get?_erase (map : NameMap α) (name other : String) :
    (map.erase name).get? other = if other = name then none else map.get? other :=
  Entries.lookup_erase name other map.entries

theorem erase_of_unbound (h : map.get? name = none) : map.erase name = map := by
  rw [← entries_inj]
  apply Entries.erase_of_notMem
  change name ∉ map.names
  simp [mem_names_iff, h]

theorem erase_insert (map : NameMap α) (name : String) (value : α) :
    (map.insert name value).erase name = map.erase name := by
  rw [← entries_inj]
  apply Entries.erase_insert

theorem erase_insert_of_ne (h : other ≠ name) (map : NameMap α) (value : α) :
    (map.insert other value).erase name = (map.erase name).insert other value := by
  rw [← entries_inj]
  apply Entries.erase_insert_of_ne h

theorem erase_insertAll (h : name ∉ bindings.map Prod.fst) (map : NameMap α) :
    (map.insertAll bindings).erase name = (map.erase name).insertAll bindings := by
  induction bindings generalizing map with
  | nil => rfl
  | cons binding rest ih =>
    rw [List.map_cons, List.mem_cons, not_or] at h
    rw [insertAll_cons, insertAll_cons, ih h.2, erase_insert_of_ne (Ne.symm h.1)]

/--
A map that binds a name has one entry for it, which is overwritten where it stands.
-/
theorem exists_entries_of_get? (h : map.get? name = some value) :
    ∃ before behind, map.entries = before ++ (name, value) :: behind ∧
      name ∉ before.map Prod.fst ∧ name ∉ behind.map Prod.fst ∧
      (map.erase name).entries = before ++ behind ∧
      ∀ new, (map.insert name new).entries = before ++ (name, new) :: behind := by
  obtain ⟨before, behind, hentries⟩ := List.append_of_mem (mem_entries_of_get? h)
  have hnodup := map.nodup
  rw [hentries, List.map_append, List.map_cons, List.nodup_middle, List.nodup_cons,
    List.mem_append, not_or] at hnodup
  obtain ⟨⟨hbefore, hbehind⟩, _⟩ := hnodup
  refine ⟨before, behind, hentries, hbefore, hbehind, ?_, ?_⟩
  . change Entries.erase name map.entries = before ++ behind
    rw [← Entries.erase_of_notMem hbefore, ← Entries.erase_of_notMem hbehind, hentries]
    simp [Entries.erase]
  . intro new
    change Entries.insert name new map.entries = before ++ (name, new) :: behind
    rw [hentries, Entries.insert_append_of_notMem hbefore]

/-! Writes in another order. -/

theorem insert_comm (h : (map.get? name).isSome) (hne : other ≠ name) (value value' : α) :
    (map.insert name value).insert other value' = (map.insert other value').insert name value := by
  rw [← mem_names_iff] at h
  rw [← entries_inj]
  apply Entries.insert_comm h hne

theorem insertAll_append (map : NameMap α) (bindings bindings' : List (String × α)) :
    map.insertAll (bindings ++ bindings') = (map.insertAll bindings).insertAll bindings' :=
  List.foldl_append

theorem insertAll_insert (h : (map.get? name).isSome) (hmem : name ∉ bindings.map Prod.fst)
    (value : α) :
    (map.insert name value).insertAll bindings = (map.insertAll bindings).insert name value := by
  induction bindings generalizing map with
  | nil => rfl
  | cons binding rest ih =>
    rw [List.map_cons, List.mem_cons, not_or] at hmem
    rw [insertAll_cons, insertAll_cons, insert_comm h (Ne.symm hmem.1)]
    apply ih _ hmem.2
    rw [get?_insert_of_ne _ hmem.1]
    exact h

end NameMap

end SqlExpr
