import SqlExpr.Proofs.Node.Induction

/-!
This module contains expressions with their values taken out (`Node.blank`): one and the same literal
stands for every literal but null. Two expressions have the same blank if they differ only in the
values of these literals, and in the types that the values come from.
-/

namespace SqlExpr

/--
The literal that stands for all literals of the same use: null, or any other one.
-/
def Literal.blank (x : Literal) : Literal :=
  if x.toValue.isNull then .scalar .null else .scalar (.bool true)

namespace Node

mutual

/--
An expression with its values taken out.
-/
def blank : Node → Node
  | .literal x => .literal x.blank
  | .unary kind symbol operand => .unary kind symbol operand.blank
  | .binary kind symbol left right => .binary kind symbol left.blank right.blank
  | .chain kind keyword first rest => .chain kind keyword first.blank (blankAll rest)
  | .call kind name args => .call kind name (blankAll args)
  | .table name => .table name
  | .column table? name => .column table? name
  | .select query => .select (blankQuery query)
  | .setOperation op left right => .setOperation op left.blank right.blank
  | .foreign kind precedence value? children =>
    .foreign kind precedence (value?.map fun _ => .null) (blankAll children)

def blankAll : List Node → List Node
  | [] => []
  | node :: nodes => node.blank :: blankAll nodes

def blankOption : Option Node → Option Node
  | none => none
  | some node => some node.blank

def blankQuery : Query Node → Query Node
  | ⟨distinct, columns, sources, filter, groups, groupFilter, order, limit, offset⟩ =>
    ⟨distinct, blankAll columns, blankAll sources, blankOption filter, blankAll groups,
      blankOption groupFilter, blankAll order, limit, offset⟩

end

end Node

end SqlExpr
