import SqlExpr.Kind

/-!
This module contains the taxonomy of the built-in kinds. Every one of them descends from
`expression`. Literals, functions, tables and columns declare no precedence and so bind tightest.
-/

namespace SqlExpr.Kind.Standard

def expression : Kind := .root "expression" none

/-! Literal values. -/

def value : Kind := .special "value" expression none

def integer : Kind := .special "integer" value none

def float : Kind := .special "float" value none

def text : Kind := .special "text" value none

def boolean : Kind := .special "boolean" value none

def blob : Kind := .special "blob" value none

def null : Kind := .special "null" value none

/-! Operators. -/

/--
The kind of all operators.
-/
def operator : Kind := .special "operator" expression (some (.leftAssoc Rank.other))

def unaryOperator : Kind := .special "unary_operator" operator (some (.rightAssoc Rank.other))

def unaryPlus : Kind := .special "unary_plus" unaryOperator (some (.rightAssoc Rank.unary))

def unaryMinus : Kind := .special "unary_minus" unaryOperator (some (.rightAssoc Rank.unary))

def not : Kind := .special "not" unaryOperator (some (.rightAssoc Rank.negation))

def binaryOperator : Kind := .special "binary_operator" operator none

def add : Kind := .special "add" binaryOperator (some (.leftAssoc Rank.additive))

def subtract : Kind := .special "subtract" binaryOperator (some (.leftAssoc Rank.additive))

def multiply : Kind := .special "multiply" binaryOperator (some (.leftAssoc Rank.multiplicative))

def divide : Kind := .special "divide" binaryOperator (some (.leftAssoc Rank.multiplicative))

def modulo : Kind := .special "modulo" binaryOperator (some (.leftAssoc Rank.multiplicative))

def isIn : Kind := .special "in" binaryOperator (some (.nonassoc Rank.containment))

def notIn : Kind := .special "not_in" binaryOperator (some (.nonassoc Rank.containment))

/--
Identity, the comparison that null takes part in.
-/
def is : Kind := .special "is" binaryOperator (some (.nonassoc Rank.identity))

def isNot : Kind := .special "is_not" binaryOperator (some (.nonassoc Rank.identity))

def equal : Kind := .special "equal" binaryOperator (some (.nonassoc Rank.comparison))

def notEqual : Kind := .special "not_equal" binaryOperator (some (.nonassoc Rank.comparison))

def greaterThan : Kind := .special "greater_than" binaryOperator (some (.nonassoc Rank.comparison))

def greaterThanEqual : Kind :=
  .special "greater_than_equal" binaryOperator (some (.nonassoc Rank.comparison))

def lessThan : Kind := .special "less_than" binaryOperator (some (.nonassoc Rank.comparison))

def lessThanEqual : Kind :=
  .special "less_than_equal" binaryOperator (some (.nonassoc Rank.comparison))

def booleanChain : Kind := .special "boolean_chain" operator none

def and : Kind := .special "and" booleanChain (some (.leftAssoc Rank.conjunction))

def or : Kind := .special "or" booleanChain (some (.leftAssoc Rank.disjunction))

/-! Function calls. -/

def function : Kind := .special "function" expression none

def min : Kind := .special "min" function none

def max : Kind := .special "max" function none

def sqrt : Kind := .special "sqrt" function none

def power : Kind := .special "power" function none

/-! Queries. -/

def table : Kind := .special "table" expression none

def column : Kind := .special "column" expression none

def select : Kind := .special "select" expression (some (.nonassoc Rank.query))

def setOperation : Kind := .special "set_operation" expression (some (.leftAssoc Rank.union))

def union : Kind := .special "union" setOperation none

def intersect : Kind := .special "intersect" setOperation (some (.leftAssoc Rank.intersection))

def except : Kind := .special "except" setOperation none

def all : List Kind :=
  [expression,
    value, integer, float, text, boolean, blob, null,
    operator,
    unaryOperator, unaryPlus, unaryMinus, not,
    binaryOperator, add, subtract, multiply, divide, modulo, isIn, notIn, is, isNot,
    equal, notEqual, greaterThan, greaterThanEqual, lessThan, lessThanEqual,
    booleanChain, and, or,
    function, min, max, sqrt, power,
    table, column, select, setOperation, union, intersect, except]

def find? (name : String) : Option Kind :=
  all.find? (·.name = name)

end SqlExpr.Kind.Standard
