import SqlExpr.Program

/-!
This module contains the test that handlers make before they read the parts of a node: whether the
node has the form that they are written for.
-/

namespace SqlExpr

namespace Node

/--
Whether a node has a given form. A form of a handler's own is never met.
-/
def hasForm : Form → Node → Bool
  | .valued, node => node.value?.isSome
  | .unary, .unary .. => true
  | .binary, .binary .. => true
  | .chain, .chain .. => true
  | .call, .call .. => true
  | .table, .table .. => true
  | .column, .column .. => true
  | .select, .select .. => true
  | .setOperation, .setOperation .. => true
  | .text, .literal (.scalar (.text _)) => true
  | .integer, .literal (.scalar (.int64 _)) => true
  | _, _ => false

def require (node : Node) (form : Form) : Except Error Node :=
  if node.hasForm form then .ok node else .error (node.mismatch form)

end Node

def Action.require (node : Node) (form : Form) : Action Node :=
  .ofExcept (node.require form)

end SqlExpr
