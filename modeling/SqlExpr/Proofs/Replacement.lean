import Mathlib.Logic.Relation
import SqlExpr.Proofs.Outcome.Compiles
import SqlExpr.Proofs.Serving

/-!
This module contains what the handler of a node makes of it: a text (`Compiler.Makes`), or a
replacement that is compiled without the innermost of the frames that the handler leaves
(`Compiler.Replaces`). A replacement may be replaced again; such chains are the reflexive transitive
closure of `Compiler.Replaces`.
-/

namespace SqlExpr

namespace Compiler

/--
Whether the handler of a node, called on top of the frames of a state, ends with a fragment, and
with which frames.
-/
def Makes (c : Compiler) (node : Node) (s : State) (fragment : Fragment) (after : State) : Prop :=
  ∃ depth handler, c.lookup? node.kind = some handler ∧
    (handler node).run c (c.compileAt depth) (.inner (State.demandFrame node.precedence) s)
      = some (.ok fragment, after)

/--
Whether the handler of the first node replaces it by the second one. The states are what each node
is compiled in.
-/
def Replaces (c : Compiler) (item item' : Node × State) : Prop :=
  ∃ after, c.Makes item.1 item.2 (.replace item'.1) after ∧ after.pop = .ok item'.2

/--
A replacement is compiled without the innermost of the frames that the handler leaves.
-/
theorem compileAt_of_run_inner {c : Compiler} {node replacement : Node} {handler : Handler}
    {depth : Nat} {s view : State} {hidden : Frame}
    (hlookup : c.lookup? node.kind = some handler)
    (hrun : (handler node).run c (c.compileAt depth) (.inner (State.demandFrame node.precedence) s)
      = some (.ok (.replace replacement), .inner hidden view)) (p : Precedence) :
    c.compileAt (depth + 1) node p s
      =
    (c.compileAt depth replacement p view).map
      fun r => (r.1, (State.inner hidden (r.2.cutTo view.depth)).cutTo s.depth) := by
  rw [compileAt_of_lookup? hlookup, serveWith, hrun, Option.bind_some, finish,
    State.parentView_inner, Option.map_map]
  rfl

theorem Makes.compiles {c : Compiler} {node : Node} {s after : State} {text : String}
    (h : c.Makes node s (.sql text) after) (p : Precedence) :
    c.Compiles node p s (.ok (bracket node.precedence p text), after.cutTo s.depth) := by
  obtain ⟨depth, handler, hlookup, hrun⟩ := h
  refine ⟨depth + 1, ?_⟩
  rw [compileAt_of_lookup? hlookup, serveWith, hrun]
  rfl

end Compiler

end SqlExpr
