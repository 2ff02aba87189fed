/-!
This module contains dialects: the few tokens that differ between databases. Everything else is
written the same way for all of them.
-/

namespace SqlExpr

/--
The tokens of a database.
-/
structure Dialect where
  name : String
  placeholder : String
  nullKeyword : String
  deriving DecidableEq, Repr

namespace Dialect

def defaultPlaceholder : String := "?"

def defaultNullKeyword : String := "NULL"

def generic : Dialect := ⟨"generic", defaultPlaceholder, defaultNullKeyword⟩

instance : Inhabited Dialect := ⟨generic⟩

end Dialect

end SqlExpr
