import SqlExpr.Handler.Operator

/-!
This module contains the handlers of function calls, tables, columns and queries. Arguments and the
members of clauses stand between separators, so only queries among them are bracketed.
-/

namespace SqlExpr.Handler

def listText (nodes : List Node) : Action String := do
  let texts ← Action.compileEach .clause nodes
  pure (", ".intercalate texts)

def call : Handler
  | .call _ name args => Action.toSql do
    let text ← listText args
    pure (name ++ "(" ++ text ++ ")")
  | node => .fail (node.mismatch .call)

def table : Handler
  | .table name => .done (.sql name)
  | node => .fail (node.mismatch .table)

def column : Handler
  | .column table? name => .done (.sql (Node.columnText table? name))
  | node => .fail (node.mismatch .column)

/--
The result columns of a query. A query without any asks for all.
-/
def columnsText : List Node → Action String
  | [] => pure "*"
  | nodes => listText nodes

def listClause (keyword : String) : List Node → Action (List String)
  | [] => pure []
  | nodes => do
    let text ← listText nodes
    pure [keyword, text]

def optionClause (keyword : String) : Option Node → Action (List String)
  | none => pure []
  | some node => do
    let text ← Action.compile node .clause
    pure [keyword, text]

def countClause (keyword : String) : Option UInt64 → List String
  | none => []
  | some count => [keyword, Nat.repr count.toNat]

def select : Handler
  | .select q => Action.toSql do
    let columns ← columnsText q.columns
    let sources ← listClause "FROM" q.sources
    let filter ← optionClause "WHERE" q.filter
    let groups ← listClause "GROUP BY" q.groups
    let groupFilter ← optionClause "HAVING" q.groupFilter
    let order ← listClause "ORDER BY" q.order
    let distinct := if q.distinct then ["DISTINCT"] else []
    pure (" ".intercalate (["SELECT"] ++ distinct ++ [columns] ++ sources ++ filter ++ groups
      ++ groupFilter ++ order ++ countClause "LIMIT" q.limit ++ countClause "OFFSET" q.offset))
  | node => .fail (node.mismatch .select)

/--
An operation on two queries. All of them associate to the left.
-/
def setOperation : Handler
  | node@(.setOperation op left right) => Action.toSql do
    let leftText ← Action.compile left (.exactly node.precedence)
    let rightText ← Action.compile right (.exactly node.precedence.nextTighter)
    pure (infixText leftText op.keyword rightText)
  | node => .fail (node.mismatch .setOperation)

end SqlExpr.Handler

namespace SqlExpr.Compiler

def registerFunctions (c : Compiler) : Compiler :=
  c.register [Kind.Standard.function] Handler.call

def registerQueries (c : Compiler) : Compiler :=
  (((c.register [Kind.Standard.table] Handler.table).register
    [Kind.Standard.column] Handler.column).register
    [Kind.Standard.select] Handler.select).register
    [Kind.Standard.setOperation] Handler.setOperation

end SqlExpr.Compiler
