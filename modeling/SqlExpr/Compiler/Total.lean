import SqlExpr.Compiler.Standard
import SqlExpr.Handler.Descent

/-!
This module contains the proof that the standard compiler ends on every expression, and with it
`compile`, which needs no bound on the depth of nesting. Built-in handlers descend, and a
replacement is not replaced again, so two compilations for every level of an expression are enough
(`isSome_compileAt_standard`).
-/

namespace SqlExpr

namespace Compiler

theorem layers_standard : standard.layers = [standard.own] := rfl

theorem entries_standard :
    standard.own.handlers.entries =
      [("value", Handler.value), ("null", Handler.null), ("unary_operator", Handler.unary),
        ("binary_operator", Handler.binary), ("equal", Handler.equality),
        ("not_equal", Handler.equality), ("boolean_chain", Handler.chain),
        ("function", Handler.call), ("table", Handler.table), ("column", Handler.column),
        ("select", Handler.select), ("set_operation", Handler.setOperation)] := rfl

theorem lookup?_standard_is : standard.lookup? Kind.Standard.is = some Handler.binary := rfl

theorem lookup?_standard_isNot : standard.lookup? Kind.Standard.isNot = some Handler.binary := rfl

theorem descends_of_lookup?_standard {kind : Kind} {handler : Handler}
    (h : standard.lookup? kind = some handler) :
    handler.Descends ∨ handler = Handler.equality := by
  obtain ⟨layer, hlayer, hlookup⟩ := List.exists_of_findSome?_eq_some h
  obtain ⟨ancestor, _, hget⟩ := List.exists_of_findSome?_eq_some hlookup
  have hmem := NameMap.mem_entries_of_get? hget
  simp only [layers_standard, List.mem_singleton] at hlayer
  rw [hlayer, entries_standard] at hmem
  simp only [List.mem_cons, Prod.mk.injEq, List.not_mem_nil, or_false] at hmem
  rcases hmem with h | h | h | h | h | h | h | h | h | h | h | h <;> rw [h.2]
  . exact .inl Handler.compilesParts_value.descends
  . exact .inl Handler.compilesParts_null.descends
  . exact .inl Handler.compilesParts_unary.descends
  . exact .inl Handler.compilesParts_binary.descends
  . exact .inr rfl
  . exact .inr rfl
  . exact .inl Handler.compilesParts_chain.descends
  . exact .inl Handler.compilesParts_call.descends
  . exact .inl Handler.compilesParts_table.descends
  . exact .inl Handler.compilesParts_column.descends
  . exact .inl Handler.compilesParts_select.descends
  . exact .inl Handler.compilesParts_setOperation.descends

/--
A node whose handler descends is compiled if all smaller nodes are.
-/
theorem isSome_compileAt_succ {c : Compiler} {depth : Nat} {node : Node} {handler : Handler}
    (hlookup : c.lookup? node.kind = some handler)
    (hdescends : (handler node).CompilesBelow node.height)
    (hends : (c.compileAt depth).EndsBelow node.height) (p : Precedence) (s : State) :
    (c.compileAt (depth + 1) node p s).isSome := by
  simp only [compileAt, hlookup]
  refine Guard.isSome_run _ s fun inside => ?_
  have hrun := Program.isSome_run hdescends (c := c) hends inside
  split
  . simp_all
  . rfl
  . rfl
  . next h => exact absurd h (Program.ne_replace_of_compilesBelow hdescends)

theorem isSome_compileAt_standard {node : Node} {depth : Nat} (h : 2 * node.height + 2 ≤ depth)
    (p : Precedence) (s : State) : (standard.compileAt depth node p s).isSome := by
  obtain ⟨n, hn⟩ : ∃ n, node.height = n := ⟨_, rfl⟩
  induction n using Nat.strongRecOn generalizing node depth p s with
  | ind n ih =>
    have hends {depth : Nat} (hdepth : 2 * node.height ≤ depth) :
        (standard.compileAt depth).EndsBelow node.height := by
      intro smaller p s hlt
      exact ih smaller.height (by omega) (by omega) p s rfl
    obtain ⟨depth, rfl⟩ : ∃ k, depth = k + 2 := ⟨depth - 2, by omega⟩
    cases hlookup : standard.lookup? node.kind with
    | none => simp [compileAt, hlookup]
    | some handler =>
      cases descends_of_lookup?_standard hlookup with
      | inl hdescends =>
        exact isSome_compileAt_succ hlookup (hdescends node) (hends (by omega)) p s
      | inr heq =>
        subst heq
        cases Handler.equality_eq node with
        | inl hparts =>
          have hdescends := hparts.compilesBelow fun _ => Node.height_lt_of_mem_parts
          exact isSome_compileAt_succ hlookup hdescends (hends (by omega)) p s
        | inr h =>
          obtain ⟨kind, symbol, left, right, op, hnode, _, hop, heq⟩ := h
          have hheight : (Node.binaryOp op left right).height = node.height := by
            rw [hnode]
            rfl
          simp only [compileAt, hlookup, heq, Program.run]
          refine Guard.isSome_run _ s fun inside => Guard.isSome_run _ inside fun view => ?_
          have hbinary : standard.lookup? (Node.binaryOp op left right).kind
              = some Handler.binary := by
            rcases hop with rfl | rfl
            . exact lookup?_standard_is
            . exact lookup?_standard_isNot
          refine isSome_compileAt_succ hbinary (Handler.compilesParts_binary.descends _) ?_ p view
          rw [hheight]
          exact hends (by omega)

theorem isSome_compile_standard {node : Node} {depth : Nat} (h : 2 * node.height + 2 ≤ depth) :
    (standard.compile depth node).isSome := by
  have hends : (standard.compileAt depth).EndsBelow (node.height + 1) := by
    intro smaller p s hlt
    exact isSome_compileAt_standard (by omega) p s
  exact hends.alone (by omega)

end Compiler

def compile (node : Node) : Except Error (String × List Value) :=
  (Compiler.standard.compile (2 * node.height + 2) node).get
    (Compiler.isSome_compile_standard (Nat.le_refl _))

end SqlExpr
