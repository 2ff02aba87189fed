import SqlExpr.Proofs.Outcome.Run

/-!
This module contains compilation without a bound on its depth, as a relation between an expression
in a state and the result and state that are left (`Compiler.Compiles`), and what it is for the
standard compiler (`Compiler.compiles_standard_iff`).
-/

namespace SqlExpr

namespace Compiler

/--
Whether compiling a node with a demand in a state ends, with a result and a state that is left.
-/
def Compiles (c : Compiler) (node : Node) (p : Precedence) (s : State)
    (r : Except Error String × State) : Prop :=
  ∃ depth, c.compileAt depth node p s = some r

theorem Compiles.unique {c : Compiler} {node : Node} {p : Precedence} {s : State}
    {r r' : Except Error String × State} (h : c.Compiles node p s r) (h' : c.Compiles node p s r') :
    r = r' := by
  obtain ⟨depth, h⟩ := h
  obtain ⟨depth', h'⟩ := h'
  have hdeep := c.compileAt_mono (Nat.le_max_left depth depth') _ _ _ _ h
  rw [c.compileAt_mono (Nat.le_max_right depth depth') _ _ _ _ h'] at hdeep
  injection hdeep with hdeep
  rw [hdeep]

theorem compiles_standard (d : Dialect) (node : Node) (p : Precedence) (s : State) :
    (standard.withDialect d).Compiles node p s
      ((node.outcome d p).resultIn s, s.addValues (node.outcome d p).values) :=
  ⟨_, computes_standard d (Nat.le_refl _) p s⟩

theorem compiles_standard_iff {d : Dialect} {node : Node} {p : Precedence} {s : State}
    {us : List Value} (hs : s.parameters = .ok us) {r : Except Error String × State} :
    (standard.withDialect d).Compiles node p s r
      ↔
    r = ((node.outcome d p).result, s.addValues (node.outcome d p).values) := by
  have hcompiles := compiles_standard d node p s
  rw [Outcome.resultIn_of_ok hs] at hcompiles
  constructor
  . intro h
    apply h.unique hcompiles
  . intro h
    rw [h]
    exact hcompiles

theorem parameters_new : State.new.parameters = .ok [] := rfl

theorem compile_standard (d : Dialect) {depth : Nat} {node : Node}
    (hdepth : 2 * node.height + 2 ≤ depth) :
    (standard.withDialect d).compile depth node
      =
    some ((node.outcome d .loosest).result.map
      fun text => (text, (node.outcome d .loosest).values)) := by
  have hresolve : Demand.ambient.resolve State.new = .ok .loosest := rfl
  have hcomputes := computes_standard d hdepth .loosest .new
  rw [Outcome.resultIn_of_ok parameters_new] at hcomputes
  have hparameters := State.parameters_addValues parameters_new (node.outcome d .loosest).values
  simp only [compile, CompileFn.alone, CompileFn.withDemand, hresolve, hcomputes]
  cases hresult : (node.outcome d .loosest).result with
  | error e => rfl
  | ok text => simp [hparameters, Except.map]

theorem outcome_of_compile {d : Dialect} {depth : Nat} {node : Node} {text : String}
    {vs : List Value} (h : (standard.withDialect d).compile depth node = some (.ok (text, vs))) :
    node.outcome d .loosest = ⟨.ok text, vs⟩ := by
  have hext := (standard.withDialect d).compileAt_mono
    (Nat.le_max_left depth (2 * node.height + 2))
  have hdeep := hext.alone h
  change (standard.withDialect d).compile _ node = _ at hdeep
  rw [compile_standard d (Nat.le_max_right ..)] at hdeep
  cases hout : node.outcome d .loosest with
  | mk result values =>
    rw [hout] at hdeep
    cases result with
    | error e => simp [Except.map] at hdeep
    | ok text' =>
      simp only [Except.map, Option.some.injEq, Except.ok.injEq, Prod.mk.injEq] at hdeep
      rw [hdeep.1, hdeep.2]

end Compiler

theorem compile_eq_outcome (node : Node) :
    compile node
      =
    (node.outcome .generic .loosest).result.map
      fun text => (text, (node.outcome .generic .loosest).values) := by
  have hcompile := Compiler.compile_standard .generic (Nat.le_refl (2 * node.height + 2))
  have hstandard : Compiler.standard.withDialect .generic = Compiler.standard := rfl
  rw [hstandard] at hcompile
  unfold compile
  apply Option.get_of_eq_some _ hcompile

theorem outcome_of_compile_eq_ok {node : Node} {text : String} {vs : List Value}
    (h : compile node = .ok (text, vs)) : node.outcome .generic .loosest = ⟨.ok text, vs⟩ := by
  rw [compile_eq_outcome] at h
  cases hout : node.outcome .generic .loosest with
  | mk result values =>
    rw [hout] at h
    cases result with
    | error e => cases h
    | ok text' =>
      cases h
      rfl

end SqlExpr
