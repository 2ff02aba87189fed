import SqlExpr.NameMap
import SqlExpr.Precedence
import SqlExpr.Value

/-!
This module contains attributes, the contents of a compile state, and `Bindings`, what a new frame
of a state is made from.
-/

namespace SqlExpr

/--
What a name of a compile state stands for.
-/
inductive Attribute where
  | precedence (p : Precedence)
  | value (v : Value)
  | values (vs : List Value)
  | text (s : String)

namespace Attribute

inductive Shape where
  | precedence
  | value
  | values
  | text
  deriving DecidableEq, Repr

def Shape.describe : Shape → String
  | .precedence => "precedence"
  | .value => "value"
  | .values => "value list"
  | .text => "text"

def shape : Attribute → Shape
  | .precedence _ => .precedence
  | .value _ => .value
  | .values _ => .values
  | .text _ => .text

def beqValues : List Value → List Value → Bool
  | [], [] => true
  | a :: as, b :: bs => a == b && beqValues as bs
  | _, _ => false

/--
Attributes are compared with attributes of the same shape only, and their values as values are.
-/
def beq : Attribute → Attribute → Bool
  | .precedence p, .precedence q => p == q
  | .value a, .value b => a == b
  | .values as, .values bs => beqValues as bs
  | .text a, .text b => a == b
  | _, _ => false

instance : BEq Attribute := ⟨beq⟩

def precedenceName : String := "precedence"

def parametersName : String := "parameters"

end Attribute

abbrev Frame := NameMap Attribute

/--
What a new frame binds: copies of attributes that are already bound, and after them bindings of its
own, of which the later one stays where two have one name.
-/
structure Bindings where
  copies : List String
  values : List (String × Attribute)

namespace Bindings

def empty : Bindings := ⟨[], []⟩

instance : Inhabited Bindings := ⟨empty⟩

def copy (b : Bindings) (name : String) : Bindings :=
  { b with copies := b.copies ++ [name] }

def bind (b : Bindings) (name : String) (a : Attribute) : Bindings :=
  { b with values := b.values ++ [(name, a)] }

def precedence (b : Bindings) (p : Precedence) : Bindings :=
  b.bind Attribute.precedenceName (.precedence p)

end Bindings

end SqlExpr
