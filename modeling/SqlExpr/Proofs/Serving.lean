import SqlExpr.Proofs.Outcome.Run

/-!
This module contains the compilation of a node by a given handler (`Compiler.serveWith`): the
handler runs in a frame of its own, and what it ends with decides what becomes of the node
(`Compiler.finish`). Compiling a node is this for the handler that is looked up
(`Compiler.compileAt_of_lookup?`).
-/

namespace SqlExpr

theorem State.parentView_inner {α : Type} (hidden : Frame) (view : State)
    (body : State → Option (Except Error α × State)) :
    (inner hidden view).parentView body
      =
    (body view).map fun r => (r.1, inner hidden (r.2.cutTo view.depth)) := by
  simp only [parentView_eq]
  cases body view <;> rfl

namespace Compiler

/--
What becomes of a node whose handler has ended: an error and a text are final, and a replacement is
compiled in its place. The frames are cut back to those of the caller.
-/
def finish (c : Compiler) (depth : Nat) (node : Node) (demanded : Precedence) (caller : State) :
    Except Error Fragment × State → Option (Except Error String × State)
  | (.error e, after) => some (.error e, after.cutTo caller.depth)
  | (.ok (.sql text), after) =>
    some (.ok (bracket node.precedence demanded text), after.cutTo caller.depth)
  | (.ok (.replace replacement), after) =>
    (after.parentView (c.compileAt depth replacement demanded)).map
      fun r => (r.1, r.2.cutTo caller.depth)

/--
Compile a node with a given handler.
-/
def serveWith (c : Compiler) (handler : Handler) (depth : Nat) : CompileFn :=
  fun node demanded s =>
    ((handler node).run c (c.compileAt depth) (.inner (State.demandFrame node.precedence) s)).bind
      (c.finish depth node demanded s)

variable {c : Compiler} {node : Node}

theorem compileAt_of_lookup? {handler : Handler} (h : c.lookup? node.kind = some handler)
    (depth : Nat) (p : Precedence) (s : State) :
    c.compileAt (depth + 1) node p s = c.serveWith handler depth node p s := by
  simp only [compileAt, serveWith, h, State.scope_eq, State.push_precedence]
  cases (handler node).run c (c.compileAt depth)
      (.inner (State.demandFrame node.precedence) s) with
  | none => rfl
  | some r =>
    obtain ⟨result, after⟩ := r
    cases result with
    | error e => rfl
    | ok fragment =>
      cases fragment with
      | sql text => rfl
      | replace replacement =>
        simp only [Option.bind_some, finish]
        cases after.parentView (c.compileAt depth replacement p) <;> rfl

theorem compileAt_of_lookup?_none (h : c.lookup? node.kind = none) (depth : Nat) (p : Precedence)
    (s : State) :
    c.compileAt (depth + 1) node p s = some (.error (.noHandler node.kind.name), s) := by
  simp only [compileAt, h]

end Compiler

end SqlExpr
