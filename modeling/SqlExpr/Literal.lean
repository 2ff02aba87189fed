import SqlExpr.Kind.Standard
import SqlExpr.Value

/-!
This module contains literals: the scalars that may be written into an expression, each possibly
wrapped in layers that say whether it is there at all. A literal has a kind and a value, found by
two separate walks through the layers.
-/

namespace SqlExpr

/--
A scalar of one of the supported types. Integers come in several widths and floating-point numbers
in two; text may be owned by the expression or be a constant of the program; a `Value` is its own
scalar.
-/
inductive Scalar where
  | null
  | bool (b : Bool)
  | int64 (n : Int64)
  | int32 (n : Int32)
  | int16 (n : Int16)
  | uint32 (n : UInt32)
  | uint16 (n : UInt16)
  | float64 (x : Float)
  | float32 (x : Float32)
  | text (s : String)
  | constant (s : String)
  | blob (bytes : ByteArray)
  | value (v : Value)

/--
A scalar under any number of optional layers. An absent layer hides everything below it.
-/
inductive Literal where
  | scalar (x : Scalar)
  | present (x : Literal)
  | absent

namespace Value

def kind : Value → Kind
  | .null => Kind.Standard.null
  | .bool _ => Kind.Standard.boolean
  | .int _ => Kind.Standard.integer
  | .float _ => Kind.Standard.float
  | .text _ => Kind.Standard.text
  | .blob _ => Kind.Standard.blob

end Value

namespace Scalar

def kind : Scalar → Kind
  | .null => Kind.Standard.null
  | .bool _ => Kind.Standard.boolean
  | .int64 _ | .int32 _ | .int16 _ | .uint32 _ | .uint16 _ => Kind.Standard.integer
  | .float64 _ | .float32 _ => Kind.Standard.float
  | .text _ | .constant _ => Kind.Standard.text
  | .blob _ => Kind.Standard.blob
  | .value v => v.kind

/--
The value of a scalar. Numbers are widened, which keeps them exact.
-/
def toValue : Scalar → Value
  | .null => .null
  | .bool b => .bool b
  | .int64 n => .int n
  | .int32 n => .int n.toInt64
  | .int16 n => .int n.toInt64
  | .uint32 n => .int (.ofInt n.toNat)
  | .uint16 n => .int (.ofInt n.toNat)
  | .float64 x => .float x
  | .float32 x => .float x.toFloat
  | .text s | .constant s => .text s
  | .blob bytes => .blob bytes
  | .value v => v

end Scalar

namespace Literal

def kind : Literal → Kind
  | .scalar x => x.kind
  | .present x => x.kind
  | .absent => Kind.Standard.null

/--
The value of a literal: the one of its scalar, or null if a layer is absent.
-/
def toValue : Literal → Value
  | .scalar x => x.toValue
  | .present x => x.toValue
  | .absent => .null

end Literal

end SqlExpr
