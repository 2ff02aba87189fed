/-!
This module contains the values that a statement's parameters take.
-/

namespace SqlExpr

inductive Value where
  | null
  | bool (b : Bool)
  | int (n : Int64)
  | float (x : Float)
  | text (s : String)
  | blob (bytes : ByteArray)
  deriving Inhabited

namespace Value

def isNull : Value → Bool
  | .null => true
  | _ => false

/--
Values are compared with values of the same shape only. Floating-point numbers are compared as
numbers: a number that is not one differs from itself, and the two zeros are the same.
-/
def beq : Value → Value → Bool
  | .null, .null => true
  | .bool a, .bool b => a == b
  | .int a, .int b => a == b
  | .float a, .float b => a == b
  | .text a, .text b => a == b
  | .blob a, .blob b => a == b
  | _, _ => false

instance : BEq Value := ⟨beq⟩

end Value

end SqlExpr
