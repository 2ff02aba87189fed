import SqlExpr.Precedence

/-!
This module contains the kinds of expressions. A kind may specialize another one, its parent, and
declares a precedence or inherits the one of its parent. Kinds are told apart by their names alone:
`==` compares names, and so does every look-up by kind.
-/

namespace SqlExpr

/--
A kind of expression: either a root or a special case of a parent kind.
-/
inductive Kind where
  | root (name : String) (declared : Option Precedence)
  | special (name : String) (parent : Kind) (declared : Option Precedence)
  deriving Inhabited

namespace Kind

def name : Kind → String
  | .root name _ => name
  | .special name _ _ => name

def parent? : Kind → Option Kind
  | .root _ _ => none
  | .special _ parent _ => some parent

def declared : Kind → Option Precedence
  | .root _ declared => declared
  | .special _ _ declared => declared

def lineage : Kind → List Kind
  | kind@(.root _ _) => [kind]
  | kind@(.special _ parent _) => kind :: parent.lineage

instance : BEq Kind := ⟨fun a b => a.name == b.name⟩

/--
Whether `kind` is `other` or a descendant of it.
-/
def isA (kind other : Kind) : Bool :=
  kind.lineage.any (· == other)

/--
The precedence of a kind: the one that its nearest ancestor declares, itself included. If none does,
expressions of the kind bind tightest.
-/
def precedence (kind : Kind) : Precedence :=
  (kind.lineage.findSome? declared).getD .tightest

theorem beq_iff_name_eq {a b : Kind} : (a == b) = true ↔ a.name = b.name := by
  change (a.name == b.name) = true ↔ _
  exact beq_iff_eq

@[simp]
theorem lineage_root (name : String) (declared : Option Precedence) :
    (root name declared).lineage = [root name declared] := rfl

@[simp]
theorem lineage_special (name : String) (parent : Kind) (declared : Option Precedence) :
    (special name parent declared).lineage = special name parent declared :: parent.lineage := rfl

theorem mem_lineage_self (kind : Kind) : kind ∈ kind.lineage := by
  cases kind <;> simp

theorem mem_lineage_of_parent? {kind parent : Kind} (h : parent ∈ kind.parent?) :
    parent ∈ kind.lineage := by
  cases kind with
  | root => cases h
  | special name parent' declared =>
    cases h
    exact List.mem_cons_of_mem _ parent.mem_lineage_self

theorem head?_lineage (kind : Kind) : kind.lineage.head? = some kind := by
  cases kind <;> rfl

theorem lineage_inj {kind other : Kind} : kind.lineage = other.lineage ↔ kind = other := by
  constructor
  . intro h
    rw [← Option.some_inj, ← kind.head?_lineage, h, other.head?_lineage]
  . intro h
    rw [h]

theorem isA_iff {kind other : Kind} :
    kind.isA other = true ↔ ∃ ancestor ∈ kind.lineage, ancestor.name = other.name := by
  simp [isA, beq_iff_name_eq]

theorem isA_root_iff {name : String} {declared : Option Precedence} {other : Kind} :
    (root name declared).isA other = true ↔ name = other.name := by
  simp only [isA_iff, lineage_root, List.mem_singleton, exists_eq_left]
  rfl

theorem isA_special_iff {name : String} {parent : Kind} {declared : Option Precedence}
    {other : Kind} :
    (special name parent declared).isA other = true
      ↔
    name = other.name ∨ parent.isA other = true := by
  simp only [isA_iff, lineage_special, List.mem_cons, exists_eq_or_imp]
  rfl

theorem isA_self (kind : Kind) : kind.isA kind = true :=
  isA_iff.2 ⟨kind, kind.mem_lineage_self, rfl⟩

end Kind

end SqlExpr
