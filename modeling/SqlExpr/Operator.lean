import SqlExpr.Kind.Standard

/-!
This module contains the built-in operators. Each has a kind, which decides how it is compiled, and
a symbol, which is written between or before its operands.
-/

namespace SqlExpr

/--
Operators written before one operand.
-/
inductive UnaryOp where
  | plus
  | minus
  | not
  deriving DecidableEq, Repr

namespace UnaryOp

def kind : UnaryOp → Kind
  | .plus => Kind.Standard.unaryPlus
  | .minus => Kind.Standard.unaryMinus
  | .not => Kind.Standard.not

def symbol : UnaryOp → String
  | .plus => "+"
  | .minus => "-"
  | .not => "NOT"

end UnaryOp

/--
Operators written between two operands.
-/
inductive BinaryOp where
  | add
  | subtract
  | multiply
  | divide
  | modulo
  | isIn
  | notIn
  | is
  | isNot
  | equal
  | notEqual
  | greaterThan
  | greaterThanEqual
  | lessThan
  | lessThanEqual
  deriving DecidableEq, Repr

namespace BinaryOp

def kind : BinaryOp → Kind
  | .add => Kind.Standard.add
  | .subtract => Kind.Standard.subtract
  | .multiply => Kind.Standard.multiply
  | .divide => Kind.Standard.divide
  | .modulo => Kind.Standard.modulo
  | .isIn => Kind.Standard.isIn
  | .notIn => Kind.Standard.notIn
  | .is => Kind.Standard.is
  | .isNot => Kind.Standard.isNot
  | .equal => Kind.Standard.equal
  | .notEqual => Kind.Standard.notEqual
  | .greaterThan => Kind.Standard.greaterThan
  | .greaterThanEqual => Kind.Standard.greaterThanEqual
  | .lessThan => Kind.Standard.lessThan
  | .lessThanEqual => Kind.Standard.lessThanEqual

def symbol : BinaryOp → String
  | .add => "+"
  | .subtract => "-"
  | .multiply => "*"
  | .divide => "/"
  | .modulo => "%"
  | .isIn => "IN"
  | .notIn => "NOT IN"
  | .is => "IS"
  | .isNot => "IS NOT"
  | .equal => "="
  | .notEqual => "!="
  | .greaterThan => ">"
  | .greaterThanEqual => ">="
  | .lessThan => "<"
  | .lessThanEqual => "<="

end BinaryOp

/--
Keywords that join any number of operands.
-/
inductive ChainOp where
  | and
  | or
  deriving DecidableEq, Repr

namespace ChainOp

def kind : ChainOp → Kind
  | .and => Kind.Standard.and
  | .or => Kind.Standard.or

def keyword : ChainOp → String
  | .and => "AND"
  | .or => "OR"

end ChainOp

/--
Operations on the results of two queries.
-/
inductive SetOp where
  | union
  | intersect
  | except
  deriving DecidableEq, Repr

namespace SetOp

def kind : SetOp → Kind
  | .union => Kind.Standard.union
  | .intersect => Kind.Standard.intersect
  | .except => Kind.Standard.except

def keyword : SetOp → String
  | .union => "UNION"
  | .intersect => "INTERSECT"
  | .except => "EXCEPT"

end SetOp

end SqlExpr
