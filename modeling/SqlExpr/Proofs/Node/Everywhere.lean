import SqlExpr.Node

/-!
This module contains properties that an expression has everywhere (`Node.Everywhere`): all nodes in
it have them, and the expression itself.
-/

namespace SqlExpr.Node

/--
Whether an expression and all nodes in it have a property.
-/
inductive Everywhere (P : Node → Prop) : Node → Prop where
  | intro {node : Node} (hnode : P node) (hparts : ∀ part ∈ node.parts, Everywhere P part) :
      Everywhere P node

variable {P : Node → Prop} {node : Node}

theorem everywhere_iff : node.Everywhere P ↔ P node ∧ ∀ part ∈ node.parts, part.Everywhere P := by
  constructor
  . intro h
    cases h with
    | intro hnode hparts => exact ⟨hnode, hparts⟩
  . intro h
    exact .intro h.1 h.2

theorem Everywhere.here (h : node.Everywhere P) : P node :=
  (everywhere_iff.1 h).1

theorem Everywhere.of_mem_parts (h : node.Everywhere P) {part : Node}
    (hmem : part ∈ node.parts) :
    part.Everywhere P :=
  (everywhere_iff.1 h).2 part hmem

end SqlExpr.Node
