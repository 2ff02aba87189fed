/-!
This module contains the clauses of a single query, over any type of expressions, and the operations
that add to them. Lists grow at their end; a clause that a query has once is replaced.
-/

namespace SqlExpr

/--
The clauses of a query. The default is the query without any.
-/
structure Query (α : Type) where
  distinct : Bool
  columns : List α
  sources : List α
  filter : Option α
  groups : List α
  groupFilter : Option α
  order : List α
  limit : Option UInt64
  offset : Option UInt64

namespace Query

variable {α : Type}

def empty : Query α := ⟨false, [], [], none, [], none, [], none, none⟩

instance : Inhabited (Query α) := ⟨empty⟩

def setDistinct (q : Query α) : Query α :=
  { q with distinct := true }

def addColumns (q : Query α) (columns : List α) : Query α :=
  { q with columns := q.columns ++ columns }

def addColumn (q : Query α) (column : α) : Query α :=
  q.addColumns [column]

def addSource (q : Query α) (source : α) : Query α :=
  { q with sources := q.sources ++ [source] }

/--
Keep the rows that satisfy a condition, and forget an earlier condition.
-/
def setFilter (q : Query α) (condition : α) : Query α :=
  { q with filter := some condition }

def addGroup (q : Query α) (group : α) : Query α :=
  { q with groups := q.groups ++ [group] }

def setGroupFilter (q : Query α) (condition : α) : Query α :=
  { q with groupFilter := some condition }

def addOrder (q : Query α) (key : α) : Query α :=
  { q with order := q.order ++ [key] }

def setLimit (q : Query α) (count : UInt64) : Query α :=
  { q with limit := some count }

def setOffset (q : Query α) (count : UInt64) : Query α :=
  { q with offset := some count }

def map {β : Type} (f : α → β) (q : Query α) : Query β :=
  ⟨q.distinct, q.columns.map f, q.sources.map f, q.filter.map f, q.groups.map f,
    q.groupFilter.map f, q.order.map f, q.limit, q.offset⟩

/--
The expressions of a query in the order in which they are written.
-/
def parts (q : Query α) : List α :=
  q.columns ++ q.sources ++ q.filter.toList ++ q.groups ++ q.groupFilter.toList ++ q.order

theorem forall_mem_parts {q : Query α} {P : α → Prop} :
    (∀ a ∈ q.parts, P a)
      ↔
    (∀ a ∈ q.columns, P a) ∧ (∀ a ∈ q.sources, P a) ∧ (∀ a ∈ q.filter, P a) ∧
      (∀ a ∈ q.groups, P a) ∧ (∀ a ∈ q.groupFilter, P a) ∧ ∀ a ∈ q.order, P a := by
  simp only [parts, List.mem_append, Option.mem_toList, Option.mem_def, or_imp, forall_and,
    and_assoc]

theorem parts_map {β : Type} (f : α → β) (q : Query α) : (q.map f).parts = q.parts.map f := by
  simp only [parts, map, List.map_append, Option.toList_map]

end Query

inductive QueryStep (α : Type) where
  | distinct
  | column (item : α)
  | columns (items : List α)
  | source (item : α)
  | filter (condition : α)
  | group (item : α)
  | groupFilter (condition : α)
  | order (key : α)
  | limit (count : UInt64)
  | offset (count : UInt64)

namespace QueryStep

variable {α : Type}

def apply (q : Query α) : QueryStep α → Query α
  | .distinct => q.setDistinct
  | .column item => q.addColumn item
  | .columns items => q.addColumns items
  | .source item => q.addSource item
  | .filter condition => q.setFilter condition
  | .group item => q.addGroup item
  | .groupFilter condition => q.setGroupFilter condition
  | .order key => q.addOrder key
  | .limit count => q.setLimit count
  | .offset count => q.setOffset count

end QueryStep

def Query.ofSteps {α : Type} (steps : List (QueryStep α)) : Query α :=
  steps.foldl QueryStep.apply .empty

end SqlExpr
