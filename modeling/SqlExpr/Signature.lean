import SqlExpr.Kind.Standard

/-!
This module contains the signatures of functions: a kind, a name and the number of arguments that a
call may have.
-/

namespace SqlExpr

/--
How many arguments a function takes.
-/
inductive Arity where
  | exact (count : Nat)
  | atLeast (count : Nat)
  deriving DecidableEq, Repr, Inhabited

namespace Arity

def accepts : Arity → Nat → Bool
  | .exact n, count => count == n
  | .atLeast n, count => n ≤ count

/--
The bound of an arity, whichever way it is meant.
-/
def bound : Arity → Nat
  | .exact n => n
  | .atLeast n => n

/--
An arity in words. Only a bound of one has the singular.
-/
def describe (arity : Arity) : String :=
  let qualifier := match arity with
    | .exact _ => "exactly "
    | .atLeast _ => "at least "
  let noun := if arity.bound = 1 then " argument" else " arguments"
  qualifier ++ Nat.repr arity.bound ++ noun

end Arity

/--
A function that calls can be checked against.
-/
structure Signature where
  kind : Kind
  name : String
  arity : Arity

namespace Signature

def min : Signature := ⟨Kind.Standard.min, "min", .atLeast 1⟩

def max : Signature := ⟨Kind.Standard.max, "max", .atLeast 1⟩

def sqrt : Signature := ⟨Kind.Standard.sqrt, "sqrt", .exact 1⟩

def power : Signature := ⟨Kind.Standard.power, "power", .exact 2⟩

end Signature

end SqlExpr
