import SqlExpr.Proofs.Naming
import SqlExpr.Proofs.Node.Induction

/-!
This module contains expressions with all comparisons with null replaced by the identity tests that
they are compiled as (`Node.identified`), and expressions whose kinds have names of their own
(`Node.UniquelyNamed`).
-/

namespace SqlExpr

/--
The identity test that takes the place of a comparison for equality or inequality.
-/
def Kind.identityTest (kind : Kind) : BinaryOp :=
  if kind.isA Kind.Standard.notEqual then .isNot else .is

theorem Literal.kind_mem_all (x : Literal) : x.kind ∈ Kind.Standard.all := by
  rw [x.kind_eq]
  cases x.toValue <;> simp [Value.kind, Kind.Standard.all]

theorem SetOp.kind_mem_all (op : SetOp) : op.kind ∈ Kind.Standard.all := by
  cases op <;> simp [SetOp.kind, Kind.Standard.all]

namespace Node

mutual

/--
An expression with every comparison for equality or inequality that has null on the right replaced
by an identity test.
-/
def identified : Node → Node
  | .literal x => .literal x
  | .unary kind symbol operand => .unary kind symbol operand.identified
  | .binary kind symbol left right =>
    if kind.testsEquality && right.kind.isA Kind.Standard.null then
      .binaryOp kind.identityTest left.identified right.identified
    else
      .binary kind symbol left.identified right.identified
  | .chain kind keyword first rest => .chain kind keyword first.identified (identifiedAll rest)
  | .call kind name args => .call kind name (identifiedAll args)
  | .table name => .table name
  | .column table? name => .column table? name
  | .select query => .select (identifiedQuery query)
  | .setOperation op left right => .setOperation op left.identified right.identified
  | .foreign kind precedence value? children =>
    .foreign kind precedence value? (identifiedAll children)

def identifiedAll : List Node → List Node
  | [] => []
  | node :: nodes => node.identified :: identifiedAll nodes

def identifiedOption : Option Node → Option Node
  | none => none
  | some node => some node.identified

def identifiedQuery : Query Node → Query Node
  | ⟨distinct, columns, sources, filter, groups, groupFilter, order, limit, offset⟩ =>
    ⟨distinct, identifiedAll columns, identifiedAll sources, identifiedOption filter,
      identifiedAll groups, identifiedOption groupFilter, identifiedAll order, limit, offset⟩

end

/--
Expressions in which no kind has the name of a built-in kind without being this kind.
-/
inductive UniquelyNamed : Node → Prop where
  | literal (x : Literal) : UniquelyNamed (.literal x)
  | unary {kind : Kind} {symbol : String} {operand : Node} (hkind : kind.UniquelyNamed)
      (hoperand : UniquelyNamed operand) : UniquelyNamed (.unary kind symbol operand)
  | binary {kind : Kind} {symbol : String} {left right : Node} (hkind : kind.UniquelyNamed)
      (hleft : UniquelyNamed left) (hright : UniquelyNamed right) :
      UniquelyNamed (.binary kind symbol left right)
  | chain {kind : Kind} {keyword : String} {first : Node} {rest : List Node}
      (hkind : kind.UniquelyNamed) (hoperands : ∀ node ∈ first :: rest, UniquelyNamed node) :
      UniquelyNamed (.chain kind keyword first rest)
  | call {kind : Kind} {name : String} {args : List Node} (hkind : kind.UniquelyNamed)
      (hargs : ∀ node ∈ args, UniquelyNamed node) : UniquelyNamed (.call kind name args)
  | table (name : String) : UniquelyNamed (.table name)
  | column (table? : Option String) (name : String) : UniquelyNamed (.column table? name)
  | select {query : Query Node} (hparts : ∀ node ∈ query.parts, UniquelyNamed node) :
      UniquelyNamed (.select query)
  | setOperation (op : SetOp) {left right : Node} (hleft : UniquelyNamed left)
      (hright : UniquelyNamed right) : UniquelyNamed (.setOperation op left right)
  | foreign {kind : Kind} {precedence : Precedence} {value? : Option Value} {children : List Node}
      (hkind : kind.UniquelyNamed) (hchildren : ∀ node ∈ children, UniquelyNamed node) :
      UniquelyNamed (.foreign kind precedence value? children)

/--
The built-in forms without a kind of their own have built-in kinds.
-/
theorem UniquelyNamed.kind {node : Node} (h : node.UniquelyNamed) : node.kind.UniquelyNamed := by
  cases h with
  | unary hkind | binary hkind | chain hkind | call hkind | foreign hkind => exact hkind
  | literal x => exact Kind.uniquelyNamed_of_mem_all x.kind_mem_all
  | table => exact Kind.uniquelyNamed_of_mem_all (by simp [Node.kind, Kind.Standard.all])
  | column => exact Kind.uniquelyNamed_of_mem_all (by simp [Node.kind, Kind.Standard.all])
  | select => exact Kind.uniquelyNamed_of_mem_all (by simp [Node.kind, Kind.Standard.all])
  | setOperation op => exact Kind.uniquelyNamed_of_mem_all op.kind_mem_all

theorem identified_binary_of_null {kind : Kind} {right : Node} (hkind : kind.testsEquality = true)
    (hnull : right.kind.isA Kind.Standard.null = true) (symbol : String) (left : Node) :
    (binary kind symbol left right).identified
      =
    .binaryOp kind.identityTest left.identified right.identified := by
  rw [identified, hkind, hnull]
  rfl

theorem identified_binary_of_not_null {kind : Kind} {right : Node}
    (h : (kind.testsEquality && right.kind.isA Kind.Standard.null) = false) (symbol : String)
    (left : Node) :
    (binary kind symbol left right).identified
      =
    .binary kind symbol left.identified right.identified := by
  rw [identified, h]
  rfl

/--
No comparison is null, and no identity test is, so what is compared with null stays so.
-/
theorem UniquelyNamed.isA_null_identified {node : Node} (h : node.UniquelyNamed) :
    node.identified.kind.isA Kind.Standard.null = node.kind.isA Kind.Standard.null := by
  cases h with
  | @binary kind symbol left right hkind hleft hright =>
    cases htest : kind.testsEquality && right.kind.isA Kind.Standard.null with
    | false => rw [identified_binary_of_not_null htest]; rfl
    | true =>
      rw [Bool.and_eq_true] at htest
      rw [identified_binary_of_null htest.1 htest.2]
      change kind.identityTest.kind.isA Kind.Standard.null = kind.isA Kind.Standard.null
      rw [hkind.isA_null_of_testsEquality htest.1]
      cases kind.identityTest <;> rfl
  | _ => simp only [identified, Node.kind]

end Node

end SqlExpr
