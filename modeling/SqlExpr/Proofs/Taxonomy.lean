import Mathlib.Data.List.Nodup
import Mathlib.Data.Set.Operations
import Mathlib.Order.Defs.Unbundled
import SqlExpr.Kind

/-!
This module contains taxonomies: sets of kinds that have different names, with the parents of all
their members (`Kind.Taxonomy`). Kinds are told apart by their names, but a kind refers to its parent
itself and not to its name. In a taxonomy this comes to the same: the lineage of a kind that is below
another one by name ends with the lineage of the other one (`Kind.Taxonomy.lineage_eq_append`), and
so `isA` is a partial order (`Kind.Taxonomy.isPartialOrder_isA`).
-/

namespace SqlExpr.Kind

/--
The kinds of a lineage that come before the first one with the name of another kind.
-/
def nearerThan (kind other : Kind) : List Kind :=
  kind.lineage.takeWhile (·.name ≠ other.name)

theorem nearerThan_of_name_eq {kind other : Kind} (h : kind.name = other.name) :
    kind.nearerThan other = [] := by
  cases kind <;> exact List.takeWhile_cons_of_neg (by simpa using h)

theorem nearerThan_special {name : String} {other : Kind} (h : name ≠ other.name) (parent : Kind)
    (declared : Option Precedence) :
    (special name parent declared).nearerThan other
      =
    special name parent declared :: parent.nearerThan other :=
  List.takeWhile_cons_of_pos (decide_eq_true h)

/--
A set of kinds that have different names, with all their ancestors.
-/
structure Taxonomy where
  kinds : Set Kind
  injOn_name : kinds.InjOn Kind.name
  parent_mem : ∀ kind ∈ kinds, ∀ parent ∈ kind.parent?, parent ∈ kinds

namespace Taxonomy

variable {t : Taxonomy} {a b c : Kind}

theorem mem_of_mem_lineage (ha : a ∈ t.kinds) {ancestor : Kind} (h : ancestor ∈ a.lineage) :
    ancestor ∈ t.kinds := by
  induction a with
  | root name declared =>
    rw [lineage_root, List.mem_singleton] at h
    rwa [h]
  | special name parent declared ih =>
    rw [lineage_special, List.mem_cons] at h
    cases h with
    | inl hself => rwa [hself]
    | inr hmem => exact ih (t.parent_mem _ ha parent rfl) hmem

theorem lineage_eq_append_of_name_eq (ha : a ∈ t.kinds) (hb : b ∈ t.kinds) (h : a.name = b.name) :
    a.lineage = a.nearerThan b ++ b.lineage := by
  have heq : a = b := t.injOn_name ha hb h
  rw [nearerThan_of_name_eq h, List.nil_append, heq]

/--
The lineage of a member goes on with that of every member it is below. The other one is found by its
name at some ancestor, and no member but itself has this name.
-/
theorem lineage_eq_append (ha : a ∈ t.kinds) (hb : b ∈ t.kinds) (h : a.isA b = true) :
    a.lineage = a.nearerThan b ++ b.lineage := by
  induction a with
  | root name declared => exact lineage_eq_append_of_name_eq ha hb (isA_root_iff.1 h)
  | special name parent declared ih =>
    by_cases hname : name = b.name
    . exact lineage_eq_append_of_name_eq ha hb hname
    have hparent : parent.isA b = true := (isA_special_iff.1 h).resolve_left hname
    rw [lineage_special, nearerThan_special hname, List.cons_append,
      ← ih (t.parent_mem _ ha parent rfl) hparent]

theorem isA_iff_lineage_suffix (ha : a ∈ t.kinds) (hb : b ∈ t.kinds) :
    a.isA b = true ↔ b.lineage <:+ a.lineage := by
  constructor
  . intro h
    exact ⟨a.nearerThan b, (lineage_eq_append ha hb h).symm⟩
  . intro h
    exact isA_iff.2 ⟨b, h.subset b.mem_lineage_self, rfl⟩

theorem isA_antisymm (ha : a ∈ t.kinds) (hb : b ∈ t.kinds) (hab : a.isA b = true)
    (hba : b.isA a = true) : a = b := by
  rw [isA_iff_lineage_suffix ha hb] at hab
  rw [isA_iff_lineage_suffix hb ha] at hba
  exact lineage_inj.1 (hba.eq_of_length_le hab.length_le)

theorem isA_trans (ha : a ∈ t.kinds) (hb : b ∈ t.kinds) (hc : c ∈ t.kinds) (hab : a.isA b = true)
    (hbc : b.isA c = true) : a.isA c = true := by
  rw [isA_iff_lineage_suffix ha hb] at hab
  rw [isA_iff_lineage_suffix hb hc] at hbc
  rw [isA_iff_lineage_suffix ha hc]
  exact hbc.trans hab

theorem isPartialOrder_isA (t : Taxonomy) :
    IsPartialOrder t.kinds fun a b => a.1.isA b.1 = true where
  refl a := a.1.isA_self
  antisymm a b hab hba := Subtype.ext (isA_antisymm a.2 b.2 hab hba)
  trans a b c hab hbc := isA_trans a.2 b.2 c.2 hab hbc

/--
Outside a taxonomy two kinds may be below each other: here the parent of each has the name of the
other one.
-/
example :
    let a : Kind := .special "a" (.root "b" none) none
    let b : Kind := .special "b" (.root "a" none) none
    a.isA b = true ∧ b.isA a = true ∧ a.name ≠ b.name := by decide

/--
The taxonomy of finitely many kinds.
-/
def ofList (kinds : List Kind) (hnames : (kinds.map Kind.name).Nodup)
    (hlineage : ∀ kind ∈ kinds, kind.lineage ⊆ kinds) : Taxonomy where
  kinds := {kind | kind ∈ kinds}
  injOn_name := fun _ ha _ hb heq => List.inj_on_of_nodup_map hnames ha hb heq
  parent_mem := fun kind hkind _ hparent => hlineage kind hkind (mem_lineage_of_parent? hparent)

theorem mem_ofList {kinds : List Kind} {hnames : (kinds.map Kind.name).Nodup}
    {hlineage : ∀ kind ∈ kinds, kind.lineage ⊆ kinds} {kind : Kind} :
    kind ∈ (ofList kinds hnames hlineage).kinds ↔ kind ∈ kinds := Iff.rfl

end Taxonomy

end SqlExpr.Kind
