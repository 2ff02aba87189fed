import SqlExpr.Proofs.Parts
import SqlExpr.Proofs.Precedence

/-!
This module contains how the queries in a set operation are written: as they are on their own,
without brackets. So an operand that ends in an ordering or in a bound on its rows is not kept apart
from the operation (`Compiler.tails_enclosed_iff`).
-/

namespace SqlExpr

/--
Whether a query ends in an ordering of its rows, or in a bound on them.
-/
def Query.hasTail {α : Type} (q : Query α) : Bool :=
  !q.order.isEmpty || q.limit.isSome || q.offset.isSome

/--
Whether there are brackets around a text.
-/
def IsEnclosed (text : String) : Prop :=
  ∃ inner, text = "(" ++ inner ++ ")"

theorem not_isEnclosed_queryText (q : Query String) : ¬ IsEnclosed q.text := by
  intro h
  obtain ⟨inner, h⟩ := h
  have hhead := congrArg (·.toList.head?) h
  unfold Query.text at hhead
  simp only [List.append_assoc, List.cons_append, List.nil_append] at hhead
  rw [String.intercalate_cons_of_ne_nil (by simp)] at hhead
  simp at hhead

theorem SetOp.demands_le_select (op : SetOp) :
    op.kind.precedence ≤ Kind.Standard.select.precedence ∧
      op.kind.precedence.nextTighter ≤ Kind.Standard.select.precedence := by
  cases op <;> decide

namespace Node

def HasTail : Node → Prop
  | .select query => query.hasTail = true
  | _ => False

variable {d : Dialect} {query : Query Node} {operand : Node} {p : Precedence} {text : String}
  {vs : List Value}

theorem outcome_select_eq_ok (h : (select query).outcome d p = ⟨.ok text, vs⟩)
    (hp : p ≤ Kind.Standard.select.precedence) :
    (select query).outcome d .loosest = ⟨.ok text, vs⟩ ∧ ¬ IsEnclosed text := by
  unfold outcome at *
  rw [Outcome.bracketed_eq_ok_iff] at *
  obtain ⟨inner, hinner, htext⟩ := h
  -- Neither demand is above the precedence of a query.
  rw [Compiler.bracket, if_neg (Precedence.not_lt_of_le hp)] at htext
  constructor
  . exact ⟨inner, hinner, htext⟩
  . obtain ⟨texts, us, us', _, hpure, _⟩ := Outcome.bind_eq_ok hinner
    cases hpure
    rw [← htext]
    apply not_isEnclosed_queryText

theorem HasTail.not_isEnclosed (htail : operand.HasTail)
    (h : operand.outcome d p = ⟨.ok text, vs⟩) (hp : p ≤ Kind.Standard.select.precedence) :
    ¬ IsEnclosed text := by
  cases operand with
  | select query => exact (outcome_select_eq_ok h hp).2
  | _ => cases htail

theorem outcome_setOperation_eq_ok {op : SetOp} {left right : Node}
    (h : (setOperation op left right).outcome d p = ⟨.ok text, vs⟩) :
    ∃ leftText us rightText us',
      left.outcome d op.kind.precedence = ⟨.ok leftText, us⟩ ∧
      right.outcome d op.kind.precedence.nextTighter = ⟨.ok rightText, us'⟩ ∧
      text = Compiler.bracket op.kind.precedence p
        (Handler.infixText leftText op.keyword rightText) := by
  unfold outcome at h
  rw [Outcome.bracketed_eq_ok_iff] at h
  obtain ⟨inner, hinner, htext⟩ := h
  obtain ⟨leftText, us, rightText, us', hleft, hright, rfl, _⟩ :=
    Outcome.joined_eq_ok_iff.1 hinner
  exact ⟨leftText, us, rightText, us', hleft, hright, htext.symm⟩

end Node

namespace Compiler

/--
In the text of a statement, a query that is an operand of a set operation stands as it does on its
own. So there are brackets around all operands that end in an ordering or in a bound on their rows
only where there are no such operands.
-/
theorem tails_enclosed_iff (d : Dialect) {node : Node} {text : String} {vs : List Value}
    (h : (standard.withDialect d).CompilesTo node text vs) {op : SetOp} {left right : Node}
    (hmem : .setOperation op left right ∈ node.visited) :
    ∃ leftText rightText,
      (Handler.infixText leftText op.keyword rightText).toList <:+: text.toList ∧
      (∃ s, (standard.withDialect d).Compiles left op.kind.precedence .new (.ok leftText, s)) ∧
      (∃ s, (standard.withDialect d).Compiles right op.kind.precedence.nextTighter .new
        (.ok rightText, s)) ∧
      (∀ query, left = .select query →
        ∃ us, (standard.withDialect d).CompilesTo left leftText us) ∧
      (∀ query, right = .select query →
        ∃ us, (standard.withDialect d).CompilesTo right rightText us) ∧
      ((left.HasTail → IsEnclosed leftText) ∧ (right.HasTail → IsEnclosed rightText) ↔
        ¬ left.HasTail ∧ ¬ right.HasTail) := by
  rw [compilesTo_standard_iff] at h
  obtain ⟨p, whole, ws, hwhole, hinfix⟩ := Node.standsIn_of_mem_visited h hmem
  obtain ⟨leftText, us, rightText, us', hleft, hright, rfl⟩ :=
    Node.outcome_setOperation_eq_ok hwhole
  obtain ⟨hleftDemand, hrightDemand⟩ := op.demands_le_select
  have hcompiles {operand : Node} {p : Precedence} {text : String} {vs : List Value}
      (h : operand.outcome d p = ⟨.ok text, vs⟩) :
      ∃ s, (standard.withDialect d).Compiles operand p .new (.ok text, s) := by
    refine ⟨State.new.addValues vs, ?_⟩
    rw [compiles_standard_iff parameters_new, h]
  refine ⟨leftText, rightText, (infix_bracket _ _ _).trans hinfix, hcompiles hleft,
    hcompiles hright, ?_, ?_, ?_⟩
  . rintro query rfl
    exact ⟨us, compilesTo_standard_iff.2 (Node.outcome_select_eq_ok hleft hleftDemand).1⟩
  . rintro query rfl
    exact ⟨us', compilesTo_standard_iff.2 (Node.outcome_select_eq_ok hright hrightDemand).1⟩
  . constructor
    . intro hkept
      constructor
      . intro htail
        exact htail.not_isEnclosed hleft hleftDemand (hkept.1 htail)
      . intro htail
        exact htail.not_isEnclosed hright hrightDemand (hkept.2 htail)
    . intro hnone
      exact ⟨fun htail => absurd htail hnone.1, fun htail => absurd htail hnone.2⟩

/--
An ordered query in a union that is an operand itself, and a bounded one on the other side.
-/
theorem tails_enclosed_iff_ordered :
    let c := standard.withDialect .generic
    let ordered := Node.select (.ofSteps [.source (.table "a"), .order (.column none "x")])
    let bounded := Node.select (.ofSteps [.source (.table "b"), .limit 3])
    let other := Node.select (.ofSteps [.source (.table "c")])
    let node := Node.setOperation .intersect (.setOperation .union ordered bounded) other
    let text := "(SELECT * FROM a ORDER BY x UNION SELECT * FROM b LIMIT 3) INTERSECT SELECT * FROM c"
    c.CompilesTo node text [] ∧
    .setOperation .union ordered bounded ∈ node.visited ∧
    ∃ leftText rightText, (∃ us, c.CompilesTo ordered leftText us) ∧
      (∃ us, c.CompilesTo bounded rightText us) ∧
      ¬ ((ordered.HasTail → IsEnclosed leftText) ∧ (bounded.HasTail → IsEnclosed rightText)) := by
  intro c ordered bounded other node text
  have hnode : c.CompilesTo node text [] := compilesTo_standard_iff.2 rfl
  have hmem : .setOperation .union ordered bounded ∈ node.visited := .tail _ (.head _)
  obtain ⟨leftText, rightText, _, _, _, hleft, hright, hiff⟩ :=
    tails_enclosed_iff .generic hnode hmem
  refine ⟨hnode, hmem, leftText, rightText, hleft _ rfl, hright _ rfl, ?_⟩
  intro henclosed
  exact (hiff.1 henclosed).1 rfl

end Compiler

/--
The ordering of the first query of a union becomes one in the middle of the union.
-/
theorem ordered_operand_not_enclosed :
    let ordered := Node.select (.ofSteps [.source (.table "a"), .order (.column none "x")])
    let other := Node.select (.ofSteps [.source (.table "b")])
    ordered.HasTail ∧
    compile (.setOperation .union ordered other)
      = .ok ("SELECT * FROM a ORDER BY x UNION SELECT * FROM b", []) ∧
    ¬ ∀ op left right text vs, compile (.setOperation op left right) = .ok (text, vs) →
      left.HasTail → ∃ leftText rightText, IsEnclosed leftText ∧
        text = Handler.infixText leftText op.keyword rightText := by
  intro ordered other
  have hcompile : compile (.setOperation .union ordered other)
      = .ok ("SELECT * FROM a ORDER BY x UNION SELECT * FROM b", []) := by
    rw [compile_eq_outcome]
    rfl
  refine ⟨rfl, hcompile, ?_⟩
  intro h
  obtain ⟨leftText, rightText, ⟨inner, rfl⟩, htext⟩ := h _ _ _ _ _ hcompile rfl
  have hhead := congrArg (·.toList.head?) htext
  simp [Handler.infixText] at hhead

end SqlExpr
