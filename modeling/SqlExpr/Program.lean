import SqlExpr.Dialect
import SqlExpr.Node
import SqlExpr.State.Guard
import SqlExpr.State.Operation

/-!
This module contains what handlers are: functions from a node to a `Program`, a tree of requests to
the compiler and the state that ends in a fragment or in an error. A program is data, so it can do
to a state what the operations of a state can do and nothing else, and it reaches the compiler only
to compile, to ask which kinds are handled and to read the dialect.

`Action` is the notation that handlers are written in: a step that produces a value for the rest of
a program, and ends the program at the first error.
-/

namespace SqlExpr

/--
What a handler makes of a node: the text of an expression, or a node to be compiled in its place.
-/
inductive Fragment where
  | sql (text : String)
  | replace (replacement : Node)

/--
What is demanded of an expression: what the state says, or a given precedence.
-/
inductive Demand where
  | ambient
  | exactly (p : Precedence)

namespace Demand

def clause : Demand := .exactly .clause

def resolve (demand : Demand) (s : State) : Except Error Precedence :=
  match demand with
  | .ambient => s.precedence
  | .exactly p => .ok p

end Demand

/--
What a handler does with the compiler and the state, as a tree of requests. Every request but `done`
and `fail` continues with its answer, so a program may recover from an error.
-/
inductive Program where
  | done (fragment : Fragment)
  | fail (e : Error)
  | perform (op : Operation) (next : Except Error Answer → Program)
  | compile (node : Node) (demand : Demand) (next : Except Error String → Program)
  -- Compile a node in a state of its own.
  | compileAlone (node : Node) (next : Except Error (String × List Value) → Program)
  | handles (kind : Kind) (next : Bool → Program)
  | dialect (next : Dialect → Program)
  | within (guard : Guard) (body : Program) (next : Except Error Fragment → Program)

/--
How the nodes of a kind are compiled.
-/
abbrev Handler := Node → Program

/--
A part of a program that produces an `α` for the rest of it.
-/
def Action (α : Type) : Type := (α → Program) → Program

namespace Action

variable {α : Type}

instance : Monad Action where
  pure a := fun next => next a
  bind action f := fun next => action fun a => f a next

def toProgram (action : Action Fragment) : Program := action .done

def toSql (action : Action String) : Program := action fun text => .done (.sql text)

def fail (e : Error) : Action α := fun _ => .fail e

def ofExcept (result : Except Error α) : Action α := fun next =>
  match result with
  | .ok a => next a
  | .error e => .fail e

def perform (op : Operation) : Action Answer := fun next =>
  .perform op fun result => ofExcept result next

def compile (node : Node) (demand : Demand) : Action String := fun next =>
  .compile node demand fun result => ofExcept result next

def dialect : Action Dialect := fun next => .dialect next

def compileEach (demand : Demand) : List Node → Action (List String)
  | [] => pure []
  | node :: nodes => do
    let text ← compile node demand
    let texts ← compileEach demand nodes
    pure (text :: texts)

end Action

end SqlExpr
