import SqlExpr.Compiler.Run
import SqlExpr.Handler.Operator
import SqlExpr.Handler.Query
import SqlExpr.Handler.Value

/-!
This module contains the compiler that serves every built-in kind.
-/

namespace SqlExpr.Compiler

/--
The compiler with all built-in handlers, in the generic dialect.
-/
def standard : Compiler :=
  empty.registerValues.registerOperators.registerFunctions.registerQueries

end SqlExpr.Compiler
