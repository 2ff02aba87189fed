/-!
This module contains `NameMap`, finite maps keyed by names. Every table of the library is one: the
frames of a compile state and the handler tables of a compiler. Its view is `get?`, and
`get?_insert` and `names_insert` say what the one writing operation does to it.
-/

namespace SqlExpr

namespace Entries

variable {α : Type}

def insert (name : String) (value : α) : List (String × α) → List (String × α)
  | [] => [(name, value)]
  | (other, old) :: rest =>
    if other = name then (name, value) :: rest else (other, old) :: insert name value rest

def lookup (name : String) : List (String × α) → Option α
  | [] => none
  | (other, value) :: rest => if other = name then some value else lookup name rest

theorem map_fst_insert (name : String) (value : α) (entries : List (String × α)) :
    (insert name value entries).map Prod.fst
      =
    if name ∈ entries.map Prod.fst then entries.map Prod.fst
    else entries.map Prod.fst ++ [name] := by
  induction entries with
  | nil => simp [insert]
  | cons entry rest ih =>
    obtain ⟨other, old⟩ := entry
    by_cases h : other = name
    . simp [insert, h]
    . have : ¬ name = other := fun h' => h h'.symm
      by_cases hmem : name ∈ rest.map Prod.fst <;> simp_all [insert]

theorem nodup_insert (name : String) (value : α) {entries : List (String × α)}
    (h : (entries.map Prod.fst).Nodup) : ((insert name value entries).map Prod.fst).Nodup := by
  rw [map_fst_insert]
  split
  . exact h
  . next hmem =>
    rw [List.nodup_append]
    refine ⟨h, by simp, ?_⟩
    intro a ha b hb hab
    simp at hb
    exact hmem (hb ▸ hab ▸ ha)

theorem lookup_insert (name other : String) (value : α) (entries : List (String × α)) :
    lookup other (insert name value entries)
      =
    if other = name then some value else lookup other entries := by
  induction entries with
  | nil => by_cases h : name = other <;> simp [insert, lookup, h, eq_comm]
  | cons entry rest ih =>
    obtain ⟨key, old⟩ := entry
    by_cases hkey : key = name <;> by_cases h : key = other <;> grind [insert, lookup]

theorem mem_map_fst_iff (name : String) (entries : List (String × α)) :
    name ∈ entries.map Prod.fst ↔ (lookup name entries).isSome := by
  induction entries with
  | nil => simp [lookup]
  | cons entry rest ih =>
    obtain ⟨key, value⟩ := entry
    by_cases h : key = name
    . simp [lookup, h]
    . have : ¬ name = key := fun h' => h h'.symm
      simpa [lookup, h, this] using ih

theorem mem_of_lookup {name : String} {value : α} {entries : List (String × α)}
    (h : lookup name entries = some value) : (name, value) ∈ entries := by
  induction entries with
  | nil => cases h
  | cons entry rest ih =>
    obtain ⟨key, old⟩ := entry
    simp only [lookup] at h
    split at h
    . next hkey =>
      cases h
      simp [hkey]
    . exact List.mem_cons_of_mem _ (ih h)

end Entries

/--
A finite map from names to `α`. The entries stand in the order in which their names were first
inserted, and no name has two of them.
-/
structure NameMap (α : Type) where
  entries : List (String × α)
  nodup : (entries.map Prod.fst).Nodup

namespace NameMap

variable {α : Type}

def empty : NameMap α := ⟨[], by simp⟩

instance : Inhabited (NameMap α) := ⟨empty⟩

def names (map : NameMap α) : List String :=
  map.entries.map Prod.fst

def get? (map : NameMap α) (name : String) : Option α :=
  Entries.lookup name map.entries

def insert (map : NameMap α) (name : String) (value : α) : NameMap α :=
  ⟨Entries.insert name value map.entries, Entries.nodup_insert name value map.nodup⟩

/--
Store every binding of the list, from left to right, so that of two bindings of one name the later
one stays.
-/
def insertAll (map : NameMap α) (bindings : List (String × α)) : NameMap α :=
  bindings.foldl (fun map binding => map.insert binding.1 binding.2) map

def ofList (bindings : List (String × α)) : NameMap α :=
  empty.insertAll bindings

/--
The entries in ascending order of their names. Names are compared by code points, which is also the
order of their UTF-8 bytes.
-/
def sorted (map : NameMap α) : List (String × α) :=
  map.entries.mergeSort fun a b => a.1 ≤ b.1

@[simp]
theorem get?_empty (name : String) : (empty : NameMap α).get? name = none := rfl

@[simp]
theorem names_empty : (empty : NameMap α).names = [] := rfl

theorem get?_insert (map : NameMap α) (name other : String) (value : α) :
    (map.insert name value).get? other = if other = name then some value else map.get? other :=
  Entries.lookup_insert name other value map.entries

@[simp]
theorem get?_insert_self (map : NameMap α) (name : String) (value : α) :
    (map.insert name value).get? name = some value := by
  simp [get?_insert]

theorem get?_insert_of_ne (map : NameMap α) {name other : String} (h : other ≠ name) (value : α) :
    (map.insert name value).get? other = map.get? other := by
  simp [get?_insert, h]

theorem names_insert (map : NameMap α) (name : String) (value : α) :
    (map.insert name value).names
      =
    if name ∈ map.names then map.names else map.names ++ [name] :=
  Entries.map_fst_insert name value map.entries

theorem mem_names_iff (map : NameMap α) (name : String) :
    name ∈ map.names ↔ (map.get? name).isSome :=
  Entries.mem_map_fst_iff name map.entries

theorem mem_entries_of_get? {map : NameMap α} {name : String} {value : α}
    (h : map.get? name = some value) : (name, value) ∈ map.entries :=
  Entries.mem_of_lookup h

@[simp]
theorem insertAll_nil (map : NameMap α) : map.insertAll [] = map := rfl

@[simp]
theorem insertAll_cons (map : NameMap α) (binding : String × α) (rest : List (String × α)) :
    map.insertAll (binding :: rest) = (map.insert binding.1 binding.2).insertAll rest := rfl

end NameMap

end SqlExpr
