import SqlExpr.Node

/-!
This module contains the vocabulary for writing expressions. There is one function for every
built-in operator, chain, function and set operation; arithmetic, negation and the complement of a
node may also be written with Lean's own operators.
-/

namespace SqlExpr

namespace Node

def col (name : String) : Node := .column none name

def colOf (table name : String) : Node := .column (some table) name

/-! Arithmetic. -/

def add (left right : Node) : Node := binaryOp .add left right

def sub (left right : Node) : Node := binaryOp .subtract left right

def mul (left right : Node) : Node := binaryOp .multiply left right

def div (left right : Node) : Node := binaryOp .divide left right

def mod (left right : Node) : Node := binaryOp .modulo left right

def neg (operand : Node) : Node := unaryOp .minus operand

def plus (operand : Node) : Node := unaryOp .plus operand

instance : Add Node := ⟨add⟩
instance : Sub Node := ⟨sub⟩
instance : Mul Node := ⟨mul⟩
instance : Div Node := ⟨div⟩
instance : Mod Node := ⟨mod⟩
instance : Neg Node := ⟨neg⟩

/-! Tests. -/

def isIn (left right : Node) : Node := binaryOp .isIn left right

def notIn (left right : Node) : Node := binaryOp .notIn left right

/--
Whether the operands are the same, where null is the same as null.
-/
def is (left right : Node) : Node := binaryOp .is left right

/--
Whether the operands are not the same, where null is the same as null.
-/
def isNot (left right : Node) : Node := binaryOp .isNot left right

def isNull (operand : Node) : Node := is operand null

def isNotNull (operand : Node) : Node := isNot operand null

def eq (left right : Node) : Node := binaryOp .equal left right

def notEq (left right : Node) : Node := binaryOp .notEqual left right

def gt (left right : Node) : Node := binaryOp .greaterThan left right

def gtEq (left right : Node) : Node := binaryOp .greaterThanEqual left right

def lt (left right : Node) : Node := binaryOp .lessThan left right

def ltEq (left right : Node) : Node := binaryOp .lessThanEqual left right

/-! Logic. -/

def not (operand : Node) : Node := unaryOp .not operand

instance : Complement Node := ⟨not⟩

def and (left right : Node) : Node := pair .and left right

def or (left right : Node) : Node := pair .or left right

def all (operands : List Node) : Except Error Node := chainOp .and operands

def any (operands : List Node) : Except Error Node := chainOp .or operands

/-! Function calls. -/

def min (args : List Node) : Except Error Node := callOf .min args

def max (args : List Node) : Except Error Node := callOf .max args

def sqrt (x : Node) : Node := .call Signature.sqrt.kind Signature.sqrt.name [x]

def power (x y : Node) : Node := .call Signature.power.kind Signature.power.name [x, y]

/-! Set operations. -/

def union (left right : Node) : Node := .setOperation .union left right

def intersect (left right : Node) : Node := .setOperation .intersect left right

def except (left right : Node) : Node := .setOperation .except left right

/--
The calls of fixed length pass the check of their signatures.
-/
theorem callOf_sqrt (x : Node) : callOf .sqrt [x] = .ok (sqrt x) := rfl

theorem callOf_power (x y : Node) : callOf .power [x, y] = .ok (power x y) := rfl

end Node

end SqlExpr
