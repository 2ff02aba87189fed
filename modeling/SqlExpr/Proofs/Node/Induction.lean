import SqlExpr.Node.Height

/-!
This module contains the induction principle for expressions. The one that Lean derives has a case
for every list and query inside an expression; here the hypothesis speaks of the members of the
lists, and of the parts of a query in the order in which they are written (`Query.parts`).
-/

namespace SqlExpr

namespace Node

@[elab_as_elim, induction_eliminator]
theorem induct {motive : Node → Prop}
    (literal : ∀ x, motive (.literal x))
    (unary : ∀ kind symbol operand, motive operand → motive (.unary kind symbol operand))
    (binary : ∀ kind symbol left right, motive left → motive right →
      motive (.binary kind symbol left right))
    (chain : ∀ kind keyword first rest, (∀ node ∈ first :: rest, motive node) →
      motive (.chain kind keyword first rest))
    (call : ∀ kind name args, (∀ node ∈ args, motive node) → motive (.call kind name args))
    (table : ∀ name, motive (.table name))
    (column : ∀ table? name, motive (.column table? name))
    (select : ∀ query, (∀ node ∈ query.parts, motive node) → motive (.select query))
    (setOperation : ∀ op left right, motive left → motive right →
      motive (.setOperation op left right))
    (foreign : ∀ kind precedence value? children, (∀ node ∈ children, motive node) →
      motive (.foreign kind precedence value? children))
    (node : Node) : motive node := by
  generalize hn : node.height = n
  induction n using Nat.strongRecOn generalizing node with
  | ind n ih =>
    have hparts : ∀ part ∈ node.parts, motive part := by
      intro part hmem
      have hlt := height_lt_of_mem_parts hmem
      exact ih part.height (by omega) part rfl
    cases node with
    | literal x => apply literal
    | unary kind symbol operand => exact unary _ _ _ (hparts _ List.mem_cons_self)
    | binary kind symbol left right =>
      obtain ⟨hleft, hright⟩ := List.forall_mem_cons.1 hparts
      exact binary _ _ _ _ hleft (List.forall_mem_singleton.1 hright)
    | chain kind keyword first rest => exact chain _ _ _ _ hparts
    | call kind name args => exact call _ _ _ hparts
    | table name => apply table
    | column table? name => apply column
    | select query => exact select _ hparts
    | setOperation op left right =>
      obtain ⟨hleft, hright⟩ := List.forall_mem_cons.1 hparts
      exact setOperation _ _ _ hleft (List.forall_mem_singleton.1 hright)
    | foreign kind precedence value? children => exact foreign _ _ _ _ hparts

end Node

end SqlExpr
