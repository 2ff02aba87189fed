import SqlExpr.Compiler
import SqlExpr.Text.Alphabetic

/-!
This module contains the handlers of operators. Operands are compiled from left to right, with the
precedence of the operator as the demand, or with the next tighter one on a side that the operator
does not associate to.
-/

namespace SqlExpr.Handler

/--
Whether a character is one of the signs that two of in a row could start a comment.
-/
def isSign (c : Char) : Bool :=
  c == '-' || c == '+'

/--
What stands between the symbol of a unary operator and its operand: a space after a word, and a
space between two signs.
-/
def separator (symbol operand : String) : String :=
  let last := symbol.toList.getLast?
  if last.any isAlphabetic || (last.any isSign && operand.toList.head?.any isSign) then " " else ""

def unary : Handler
  | .unary _ symbol operand => Action.toSql do
    let text ← Action.compile operand .ambient
    pure (symbol ++ separator symbol text ++ text)
  | node => .fail (node.mismatch .unary)

/--
What an operator between two operands demands of the left one and of the right one. Only the side it
associates to may bind just as tightly as the operator.
-/
def operandDemands (own : Precedence) : Precedence × Precedence :=
  match own.associativity with
  | .left => (own, own.nextTighter)
  | .right => (own.nextTighter, own)
  | .none => (own.nextTighter, own.nextTighter)

def infixText (left symbol right : String) : String :=
  left ++ " " ++ symbol ++ " " ++ right

def binary : Handler
  | node@(.binary _ symbol left right) => Action.toSql do
    let demands := operandDemands node.precedence
    let leftText ← Action.compile left (.exactly demands.1)
    let rightText ← Action.compile right (.exactly demands.2)
    pure (infixText leftText symbol rightText)
  | node => .fail (node.mismatch .binary)

/--
A comparison for equality or inequality. With null on the right it is replaced by the corresponding
identity test, because nothing is equal to null.
-/
def equality : Handler
  | node@(.binary kind _ left right) =>
    if right.kind.isA Kind.Standard.null then
      let op : BinaryOp := if kind.isA Kind.Standard.notEqual then .isNot else .is
      .done (.replace (.binaryOp op left right))
    else
      binary node
  | node => .fail (node.mismatch .binary)

def chain : Handler
  | .chain _ keyword first rest => Action.toSql do
    let texts ← Action.compileEach .ambient (first :: rest)
    pure ((" " ++ keyword ++ " ").intercalate texts)
  | node => .fail (node.mismatch .chain)

end SqlExpr.Handler

namespace SqlExpr.Compiler

def registerOperators (c : Compiler) : Compiler :=
  (((c.register [Kind.Standard.unaryOperator] Handler.unary).register
    [Kind.Standard.binaryOperator] Handler.binary).register
    [Kind.Standard.equal, Kind.Standard.notEqual] Handler.equality).register
    [Kind.Standard.booleanChain] Handler.chain

end SqlExpr.Compiler
