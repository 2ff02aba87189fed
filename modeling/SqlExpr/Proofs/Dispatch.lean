import SqlExpr.Node.Build
import SqlExpr.Proofs.Serving

/-!
This module contains which handler serves a kind, for compilers that are built up by registrations
(`Compiler.BuiltBy`). The registrations made on a compiler and on its ancestors are a list of
tables, nearest first. A kind is served by the first table that has a registration for any kind of
its lineage, there by the first kind of the lineage that has one, and for this one by the latest
(`Compiler.BuiltBy.serves_first`).
-/

namespace SqlExpr

/--
A handler, and the kinds that it is registered for.
-/
structure Registration where
  kinds : List Kind
  handler : Handler

namespace Registration

def Names (r : Registration) (name : String) : Prop := ∃ kind ∈ r.kinds, kind.name = name

instance (r : Registration) (name : String) : Decidable (r.Names name) :=
  inferInstanceAs (Decidable (∃ kind ∈ r.kinds, kind.name = name))

/--
The last registration of a table for a name.
-/
def latest? (table : List Registration) (name : String) : Option Registration :=
  table.reverse.find? fun r => r.Names name

/--
The handler that a table has for a name.
-/
def handlerFor? (table : List Registration) (name : String) : Option Handler :=
  (latest? table name).map handler

theorem handlerFor?_append_singleton (table : List Registration) (r : Registration)
    (name : String) :
    handlerFor? (table ++ [r]) name
      =
    if r.Names name then some r.handler else handlerFor? table name := by
  unfold handlerFor? latest?
  by_cases h : r.Names name <;> simp [h]

/--
Whether a registration is for a name, and none after it in the table is.
-/
def IsLatest (table : List Registration) (name : String) (r : Registration) : Prop :=
  ∃ before after, table = before ++ r :: after ∧ r.Names name ∧
    ∀ later ∈ after, ¬ later.Names name

theorem isLatest_of_latest? {table : List Registration} {name : String} {r : Registration}
    (h : latest? table name = some r) : IsLatest table name r := by
  unfold latest? at h
  rw [List.find?_eq_some_iff_append] at h
  obtain ⟨hnames, after, before, htable, hafter⟩ := h
  refine ⟨before.reverse, after.reverse, ?_, by simpa using hnames, ?_⟩
  . rw [← List.reverse_reverse table, htable]
    simp
  . intro later hmem
    simpa using hafter later (List.mem_reverse.1 hmem)

theorem handlerFor?_eq_none_iff {table : List Registration} {name : String} :
    handlerFor? table name = none ↔ ∀ r ∈ table, ¬ r.Names name := by
  simp [handlerFor?, latest?]

theorem exists_of_handlerFor? {table : List Registration} {name : String} {handler : Handler}
    (h : handlerFor? table name = some handler) :
    ∃ r, IsLatest table name r ∧ r.handler = handler := by
  obtain ⟨r, hlatest, hhandler⟩ := Option.map_eq_some_iff.1 h
  exact ⟨r, isLatest_of_latest? hlatest, hhandler⟩

/-! Positions in a list of tables and in a lineage. -/

/--
Whether the `i`-th table has a registration for the name of the `j`-th kind of a lineage.
-/
def Listed (tables : List (List Registration)) (lineage : List Kind) (i j : Nat) : Prop :=
  ∃ table kind, tables[i]? = some table ∧ lineage[j]? = some kind ∧ ∃ r ∈ table, r.Names kind.name

/--
Whether two positions are the first ones that are `Listed`, in lexicographic order.
-/
def FirstListed (tables : List (List Registration)) (lineage : List Kind) (i j : Nat) : Prop :=
  Listed tables lineage i j ∧
    ∀ i' j', i' < i ∨ (i' = i ∧ j' < j) → ¬ Listed tables lineage i' j'

/--
Whether a registration is the last one of the `i`-th table for the name of the `j`-th kind of a
lineage.
-/
def LatestListed (tables : List (List Registration)) (lineage : List Kind) (i j : Nat)
    (r : Registration) : Prop :=
  ∃ table kind, tables[i]? = some table ∧ lineage[j]? = some kind ∧ IsLatest table kind.name r

theorem FirstListed.unique {tables : List (List Registration)} {lineage : List Kind}
    {i j i' j' : Nat} (h : FirstListed tables lineage i j)
    (h' : FirstListed tables lineage i' j') : i = i' ∧ j = j' := by
  have hge : ¬ (i' < i ∨ (i' = i ∧ j' < j)) := fun hlt => h.2 i' j' hlt h'.1
  have hle : ¬ (i < i' ∨ (i = i' ∧ j < j')) := fun hlt => h'.2 i j hlt h.1
  omega

variable {tables : List (List Registration)} {lineage : List Kind} {handler : Handler}

theorem not_listed_of_handlerFor? {i j : Nat}
    (h : ∀ table kind, tables[i]? = some table → lineage[j]? = some kind →
      handlerFor? table kind.name = none) : ¬ Listed tables lineage i j := by
  intro ⟨table, kind, htable, hkind, r, hmem, hnames⟩
  have hnone := h table kind htable hkind
  rw [handlerFor?_eq_none_iff] at hnone
  exact hnone r hmem hnames

/--
The handler that a list of tables has for a lineage.
-/
def resolve? (tables : List (List Registration)) (lineage : List Kind) : Option Handler :=
  tables.findSome? fun table => lineage.findSome? fun kind => handlerFor? table kind.name

theorem not_listed_of_resolve? (h : resolve? tables lineage = none) (i j : Nat) :
    ¬ Listed tables lineage i j := by
  unfold resolve? at h
  simp only [List.findSome?_eq_none_iff] at h
  apply not_listed_of_handlerFor?
  intro table kind htable hkind
  exact h table (List.mem_of_getElem? htable) kind (List.mem_of_getElem? hkind)

theorem mem_of_getElem?_append {α : Type} {before after : List α} {i : Nat} {a : α}
    (hi : i < before.length) (h : (before ++ after)[i]? = some a) : a ∈ before := by
  rw [List.getElem?_append_left hi] at h
  apply List.mem_of_getElem? h

theorem firstListed_of_resolve? (h : resolve? tables lineage = some handler) :
    ∃ i j r, FirstListed tables lineage i j ∧ LatestListed tables lineage i j r ∧
      r.handler = handler := by
  unfold resolve? at h
  simp only [List.findSome?_eq_some_iff] at h
  obtain ⟨nearer, table, farther, htables, hfound, hnearer⟩ := h
  obtain ⟨special, kind, general, hlineage, hkind, hspecial⟩ := hfound
  obtain ⟨r, hlatest, hhandler⟩ := exists_of_handlerFor? hkind
  have htable : tables[nearer.length]? = some table := by simp [htables]
  have hancestor : lineage[special.length]? = some kind := by simp [hlineage]
  have hlisted : Listed tables lineage nearer.length special.length := by
    obtain ⟨before, after, heq, hnames, _⟩ := hlatest
    exact ⟨table, kind, htable, hancestor, r, by simp [heq], hnames⟩
  refine ⟨nearer.length, special.length, r, ⟨hlisted, ?_⟩,
    ⟨table, kind, htable, hancestor, hlatest⟩, hhandler⟩
  intro i' j' hlt
  apply not_listed_of_handlerFor?
  intro table' kind' htable' hkind'
  rcases hlt with hlt | ⟨heq, hlt⟩
  . rw [htables] at htable'
    have hnone := hnearer table' (mem_of_getElem?_append hlt htable')
    rw [List.findSome?_eq_none_iff] at hnone
    exact hnone kind' (List.mem_of_getElem? hkind')
  . rw [heq, htable] at htable'
    cases htable'
    rw [hlineage] at hkind'
    exact hspecial kind' (mem_of_getElem?_append hlt hkind')

end Registration

theorem NameMap.get?_insertAll_kinds (map : NameMap Handler) (kinds : List Kind)
    (handler : Handler) (name : String) :
    (map.insertAll (kinds.map fun kind => (kind.name, handler))).get? name
      =
    if ∃ kind ∈ kinds, kind.name = name then some handler else map.get? name := by
  induction kinds generalizing map with
  | nil => simp
  | cons kind kinds ih =>
    rw [List.map_cons, insertAll_cons, ih, get?_insert]
    by_cases hrest : ∃ kind ∈ kinds, kind.name = name
    . simp [hrest]
    . by_cases hname : kind.name = name
      . simp [hname]
      . simp [hrest, hname, Ne.symm hname]

namespace Compiler

open Registration

/--
Whether a compiler is built up by the registrations that are made on it and on its ancestors,
nearest first and in their order.
-/
inductive BuiltBy : Compiler → List (List Registration) → Prop where
  | empty : BuiltBy .empty [[]]
  | withParent {parent : Compiler} {tables : List (List Registration)}
      (h : BuiltBy parent tables) : BuiltBy parent.withParent ([] :: tables)
  | withDialect {c : Compiler} {tables : List (List Registration)} (h : BuiltBy c tables)
      (d : Dialect) : BuiltBy (c.withDialect d) tables
  | register {c : Compiler} {table : List Registration} {tables : List (List Registration)}
      (h : BuiltBy c (table :: tables)) (kinds : List Kind) (handler : Handler) :
      BuiltBy (c.register kinds handler) ((table ++ [⟨kinds, handler⟩]) :: tables)

variable {c : Compiler} {tables : List (List Registration)}

theorem BuiltBy.map_get? (h : c.BuiltBy tables) :
    c.layers.map (fun layer => layer.handlers.get?) = tables.map handlerFor? := by
  induction h with
  | empty => rfl
  | withParent h ih =>
    change _ :: _ = _ :: _
    rw [← ih]
    rfl
  | withDialect h d ih => exact ih
  | register h kinds handler ih =>
    simp only [layers, List.map_cons, List.cons.injEq] at ih ⊢
    refine ⟨?_, ih.2⟩
    funext name
    rw [handlerFor?_append_singleton, ← ih.1]
    apply NameMap.get?_insertAll_kinds

theorem BuiltBy.lookup?_eq (h : c.BuiltBy tables) (kind : Kind) :
    c.lookup? kind = resolve? tables kind.lineage := by
  have hlayers : c.lookup? kind = (c.layers.map fun layer => layer.handlers.get?).findSome?
      fun get? => kind.lineage.findSome? fun ancestor => get? ancestor.name := by
    rw [List.findSome?_map]
    rfl
  rw [hlayers, h.map_get?, List.findSome?_map]
  rfl

/--
Nodes of a kind are served by the latest registration at the first positions that are listed for its
lineage, where nearer compilers come before farther ones and, in one compiler, more special kinds
before more general ones. If none are, the kind is not handled, and compiling fails and leaves the
state as it was.
-/
theorem BuiltBy.serves_first (h : c.BuiltBy tables) (kind : Kind) :
    (∀ i j, FirstListed tables kind.lineage i j → ∃ r, LatestListed tables kind.lineage i j r ∧
      c.lookup? kind = some r.handler ∧ c.handles kind = true ∧
      ∀ node, node.kind = kind → ∀ depth p s,
        c.compileAt (depth + 1) node p s = c.serveWith r.handler depth node p s) ∧
    ((∃ i j, Listed tables kind.lineage i j) → ∃ i j, FirstListed tables kind.lineage i j) ∧
    ((¬ ∃ i j, Listed tables kind.lineage i j) → c.handles kind = false ∧
      ∀ node, node.kind = kind → ∀ depth p s,
        c.compileAt (depth + 1) node p s = some (.error (.noHandler kind.name), s)) := by
  have hlookup := h.lookup?_eq kind
  cases hresolve : resolve? tables kind.lineage with
  | none =>
    have hnot := not_listed_of_resolve? hresolve
    rw [hresolve] at hlookup
    refine ⟨fun i j hfirst => absurd hfirst.1 (hnot i j), fun ⟨i, j, hlisted⟩ => ?_, fun _ => ?_⟩
    . exact absurd hlisted (hnot i j)
    . refine ⟨by simp [handles, hlookup], ?_⟩
      intro node hkind
      subst hkind
      apply compileAt_of_lookup?_none hlookup
  | some handler =>
    obtain ⟨i, j, r, hfirst, hlatest, hhandler⟩ := firstListed_of_resolve? hresolve
    rw [hresolve, ← hhandler] at hlookup
    refine ⟨fun i' j' hfirst' => ?_, fun _ => ⟨i, j, hfirst⟩, fun hnone => ?_⟩
    . obtain ⟨hi, hj⟩ := hfirst.unique hfirst'
      rw [← hi, ← hj]
      refine ⟨r, hlatest, hlookup, by simp [handles, hlookup], ?_⟩
      intro node hkind
      subst hkind
      apply compileAt_of_lookup? hlookup
    . exact absurd ⟨i, j, hfirst.1⟩ hnone

/--
A general handler of a nearer compiler comes before a special one of its parent, and in the parent
alone the special one comes before a general one that was registered later.
-/
theorem serves_first_sqrt :
    let special : Registration := ⟨[Kind.Standard.sqrt], fun _ => .done (.sql "special")⟩
    let general : Registration := ⟨[Kind.Standard.function], fun _ => .done (.sql "general")⟩
    let nearer : Registration := ⟨[Kind.Standard.function], fun _ => .done (.sql "nearer")⟩
    let parent := (empty.register special.kinds special.handler).register general.kinds
      general.handler
    let child := parent.withParent.register nearer.kinds nearer.handler
    let lineage := Kind.Standard.sqrt.lineage
    parent.BuiltBy [[special, general]] ∧ FirstListed [[special, general]] lineage 0 0 ∧
      (∃ r, LatestListed [[special, general]] lineage 0 0 r ∧
        parent.lookup? Kind.Standard.sqrt = some r.handler) ∧
      parent.compileAt 1 (.sqrt .null) .loosest .new = some (.ok "special", .new) ∧
      child.BuiltBy [[nearer], [special, general]] ∧
      FirstListed [[nearer], [special, general]] lineage 0 1 ∧
      (∃ r, LatestListed [[nearer], [special, general]] lineage 0 1 r ∧
        child.lookup? Kind.Standard.sqrt = some r.handler) ∧
      child.compileAt 1 (.sqrt .null) .loosest .new = some (.ok "nearer", .new) ∧
      child.handles Kind.Standard.column = false := by
  intro special general nearer parent child lineage
  have hparent : parent.BuiltBy [[special, general]] := .register (.register .empty _ _) _ _
  have hchild : child.BuiltBy [[nearer], [special, general]] := .register (.withParent hparent) _ _
  have hspecial : FirstListed [[special, general]] lineage 0 0 := by
    refine ⟨⟨_, _, rfl, rfl, special, by simp, _, List.mem_singleton_self _, rfl⟩, ?_⟩
    omega
  have hnearer : FirstListed [[nearer], [special, general]] lineage 0 1 := by
    refine ⟨⟨_, _, rfl, rfl, nearer, by simp, _, List.mem_singleton_self _, rfl⟩, ?_⟩
    intro i' j' hlt ⟨table, kind, htable, hkind, r, hmem, hnames⟩
    obtain ⟨rfl, rfl⟩ : i' = 0 ∧ j' = 0 := by omega
    cases htable
    cases hkind
    cases List.mem_singleton.1 hmem
    exact absurd hnames (by decide)
  obtain ⟨r, hlatest, hlookup, _⟩ := (hparent.serves_first Kind.Standard.sqrt).1 0 0 hspecial
  obtain ⟨r', hlatest', hlookup', _⟩ := (hchild.serves_first Kind.Standard.sqrt).1 0 1 hnearer
  have hcolumn := (hchild.serves_first Kind.Standard.column).2.2
  refine ⟨hparent, hspecial, ⟨r, hlatest, hlookup⟩, rfl, hchild, hnearer, ⟨r', hlatest', hlookup'⟩,
    rfl, (hcolumn ?_).1⟩
  intro ⟨i, j, hlisted⟩
  exact absurd hlisted (not_listed_of_resolve? rfl i j)

end Compiler

end SqlExpr
