import SqlExpr.Error
import SqlExpr.Literal
import SqlExpr.Operator
import SqlExpr.Query

/-!
This module contains expression trees. A `Node` is one of the built-in forms or a foreign one, of
which the library knows no more than its kind, precedence, value and children. The kind of a node
decides how it is compiled, and most forms may carry any kind: an operator form of a new kind is a
new operator.
-/

namespace SqlExpr

/--
An expression. A chain has at least one operand by its shape.
-/
inductive Node where
  | literal (x : Literal)
  | unary (kind : Kind) (symbol : String) (operand : Node)
  | binary (kind : Kind) (symbol : String) (left right : Node)
  | chain (kind : Kind) (keyword : String) (first : Node) (rest : List Node)
  | call (kind : Kind) (name : String) (args : List Node)
  | table (name : String)
  | column (table? : Option String) (name : String)
  | select (query : Query Node)
  | setOperation (op : SetOp) (left right : Node)
  | foreign (kind : Kind) (precedence : Precedence) (value? : Option Value) (children : List Node)

namespace Node

def null : Node := .literal (.scalar .null)

instance : Inhabited Node := ⟨null⟩

def kind : Node → Kind
  | .literal x => x.kind
  | .unary kind _ _ => kind
  | .binary kind _ _ _ => kind
  | .chain kind _ _ _ => kind
  | .call kind _ _ => kind
  | .table _ => Kind.Standard.table
  | .column _ _ => Kind.Standard.column
  | .select _ => Kind.Standard.select
  | .setOperation op _ _ => op.kind
  | .foreign kind _ _ _ => kind

/--
How tightly a node binds. Only a foreign node may deviate from its kind.
-/
def precedence : Node → Precedence
  | .foreign _ precedence _ _ => precedence
  | node => node.kind.precedence

def value? : Node → Option Value
  | .literal x => some x.toValue
  | .foreign _ _ value? _ => value?
  | _ => none

/--
The operands of an operator or chain, the arguments of a call and the children of a foreign node.
The parts of queries and set operations are not counted.
-/
def children : Node → List Node
  | .unary _ _ operand => [operand]
  | .binary _ _ left right => [left, right]
  | .chain _ _ first rest => first :: rest
  | .call _ _ args => args
  | .foreign _ _ _ children => children
  | _ => []

/--
The expressions that a node is made of, also those of queries and set operations.
-/
def parts : Node → List Node
  | .select query => query.parts
  | .setOperation _ left right => [left, right]
  | node => node.children

def symbol? : Node → Option String
  | .unary _ symbol _ => some symbol
  | .binary _ symbol _ _ => some symbol
  | .chain _ keyword _ _ => some keyword
  | .setOperation op _ _ => some op.keyword
  | _ => none

def name? : Node → Option String
  | .call _ name _ => some name
  | .table name => some name
  | .column _ name => some name
  | _ => none

/--
A column reference as it is written: after the table's name and a dot, if there is one.
-/
def columnText (table? : Option String) (name : String) : String :=
  match table? with
  | none => name
  | some qualifier => qualifier ++ "." ++ name

/--
The error of a handler that requires another form.
-/
def mismatch (node : Node) (expected : Form) : Error :=
  .unexpectedNode node.kind.name expected

/-! Constructors with the built-in kinds, and constructors that may fail. -/

def scalar (x : Scalar) : Node := .literal (.scalar x)

def unaryOp (op : UnaryOp) (operand : Node) : Node :=
  .unary op.kind op.symbol operand

def binaryOp (op : BinaryOp) (left right : Node) : Node :=
  .binary op.kind op.symbol left right

def pair (op : ChainOp) (left right : Node) : Node :=
  .chain op.kind op.keyword left [right]

def chainOf (kind : Kind) (keyword : String) : List Node → Except Error Node
  | [] => .error (.construction kind.name .noOperands)
  | first :: rest => .ok (.chain kind keyword first rest)

def chainOp (op : ChainOp) (operands : List Node) : Except Error Node :=
  chainOf op.kind op.keyword operands

/--
Add an operand at the end of a chain. Other nodes are left as they are.
-/
def push (node operand : Node) : Node :=
  match node with
  | .chain kind keyword first rest => .chain kind keyword first (rest ++ [operand])
  | node => node

/--
A call that is checked against a signature.
-/
def callOf (signature : Signature) (args : List Node) : Except Error Node :=
  if signature.arity.accepts args.length then
    .ok (.call signature.kind signature.name args)
  else
    .error (.construction signature.kind.name (.arity signature.arity args.length))

def callNamed (name : String) (args : List Node) : Node :=
  .call Kind.Standard.function name args

end Node

end SqlExpr
