import SqlExpr.Compiler

/-!
This module contains the handlers of literals. The value of a literal never becomes part of the
text: it is bound, and a placeholder stands for it. Only null is written out.
-/

namespace SqlExpr.Handler

/--
Bind the value of a node and write the placeholder.
-/
def value : Handler := fun node =>
  match node.value? with
  | none => .fail (node.mismatch .valued)
  | some v => Action.toSql do
    let _ ← Action.perform (.bind v)
    let d ← Action.dialect
    pure d.placeholder

def null : Handler := fun _ => Action.toSql do
  let d ← Action.dialect
  pure d.nullKeyword

end SqlExpr.Handler

namespace SqlExpr.Compiler

def registerValues (c : Compiler) : Compiler :=
  (c.register [Kind.Standard.value] Handler.value).register [Kind.Standard.null] Handler.null

end SqlExpr.Compiler
