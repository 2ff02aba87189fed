import SqlExpr.Signature

/-!
This module contains what can go wrong when an expression is built or compiled. An `Error` holds the
cause; `Error.message` puts it into words.
-/

namespace SqlExpr

/--
The forms that a handler may require of the node it compiles.
-/
inductive Form where
  | valued
  | unary
  | binary
  | chain
  | call
  | table
  | column
  | select
  | setOperation
  -- A text literal that is owned and not optional.
  | text
  -- An integer literal of full width that is not optional.
  | integer
  | other (description : String)
  deriving DecidableEq, Repr

namespace Form

def describe : Form → String
  | .valued => "value"
  | .unary => "unary operator"
  | .binary => "binary operator"
  | .chain => "chain"
  | .call => "function call"
  | .table => "table"
  | .column => "column"
  | .select => "select"
  | .setOperation => "set operation"
  | .text => "text literal"
  | .integer => "integer literal"
  | .other description => description

end Form

/--
Why an expression cannot be built.
-/
inductive ConstructionFault where
  | noOperands
  -- A call with a number of arguments that its signature does not allow.
  | arity (expected : Arity) (count : Nat)
  | other (message : String)
  deriving DecidableEq, Repr

namespace ConstructionFault

def message : ConstructionFault → String
  | .noOperands => "expected at least 1 operand, got 0"
  | .arity expected count => "expected " ++ expected.describe ++ ", got " ++ Nat.repr count
  | .other message => message

end ConstructionFault

/--
The causes of failure. Kinds and attributes are given by name.
-/
inductive Error where
  -- Neither the compiler nor its ancestors have a handler for the kind or an ancestor of it.
  | noHandler (kind : String)
  -- No frame of the state binds the attribute.
  | noSuchAttribute (name : String)
  -- The attribute is bound to something else than what is expected.
  | attributeType (name expected : String)
  | construction (kind : String) (fault : ConstructionFault)
  -- The outermost frame of a state cannot be removed or hidden.
  | rootScope
  -- A handler met a node that does not have the form it requires.
  | unexpectedNode (kind : String) (expected : Form)
  deriving DecidableEq, Repr

namespace Error

def messageWith (describe : Form → String) : Error → String
  | .noHandler kind => "no compile handler for kind '" ++ kind ++ "'"
  | .noSuchAttribute name => "compile state has no attribute '" ++ name ++ "'"
  | .attributeType name expected =>
    "compile state attribute '" ++ name ++ "' is not a " ++ expected
  | .construction kind fault => "cannot construct '" ++ kind ++ "': " ++ fault.message
  | .rootScope => "the root scope of a compile state cannot be removed"
  | .unexpectedNode kind expected =>
    "handler expected a " ++ describe expected ++ " node, got kind '" ++ kind ++ "'"

def message (error : Error) : String :=
  error.messageWith Form.describe

end Error

end SqlExpr
