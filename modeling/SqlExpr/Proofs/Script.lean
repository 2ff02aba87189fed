import SqlExpr.Proofs.Outcome.Compiles
import SqlExpr.Proofs.State.Guard
import SqlExpr.State.Script

/-!
This module contains what a script goes through. `Step.states` are the states between its steps,
also those under open guards, in the order in which a run passes through them. What holds of them
follows from what single operations, compilations and guards do (`Step.Keeps.states`).

`Compiler.Runs` and `Compiler.Passes` are runs without a bound on the depth of compilations. With
the standard compiler every script runs to its end (`Step.exists_isSome_run`).
-/

namespace SqlExpr

/--
The report on an operation or a compilation.
-/
def Report.ofResult {α : Type} (report : α → Report) : Except Error α → Report
  | .ok a => report a
  | .error e => .failed e

namespace Step

/--
Induction on steps, with the hypothesis for the members of a block.
-/
@[elab_as_elim, induction_eliminator]
theorem induct {motive : Step → Prop} (operation : ∀ op, motive (.operation op))
    (compile : ∀ node demand, motive (.compile node demand))
    (block : ∀ guard steps, (∀ step ∈ steps, motive step) → motive (.block guard steps))
    (step : Step) : motive step :=
  match step with
  | .operation op => operation op
  | .compile node demand => compile node demand
  | .block guard steps => block guard steps fun step _ => induct operation compile block step

mutual

/--
A step and the steps inside it, at any depth.
-/
def parts : Step → List Step
  | .operation op => [.operation op]
  | .compile node demand => [.compile node demand]
  | .block guard steps => .block guard steps :: partsAll steps

def partsAll : List Step → List Step
  | [] => []
  | step :: steps => parts step ++ partsAll steps

end

theorem mem_partsAll {step part : Step} {steps : List Step} (hstep : step ∈ steps)
    (hpart : part ∈ parts step) : part ∈ partsAll steps := by
  induction steps with
  | nil => cases hstep
  | cons first steps ih =>
    unfold partsAll
    rw [List.mem_append]
    cases hstep with
    | head => exact .inl hpart
    | tail _ hstep => exact .inr (ih hstep)

mutual

/--
The states after each step, after a guard is entered and after it is left, as far as the run comes.
-/
def states (compile : CompileFn) : Step → State → List State
  | .operation op, s => [(op.apply s).2]
  | .compile node demand, s => (run compile (.compile node demand) s).toList.map Prod.snd
  | .block guard steps, s =>
    match guard.enter s with
    | .error _ => [s]
    | .ok inside =>
      inside :: statesAll compile steps inside ++
        (runAll compile steps inside).toList.map fun r => guard.leave s r.2

def statesAll (compile : CompileFn) : List Step → State → List State
  | [], _ => []
  | step :: steps, s =>
    states compile step s ++
      match run compile step s with
      | none => []
      | some (_, s') => statesAll compile steps s'

end

variable {compile : CompileFn} {step : Step} {steps : List Step} {guard : Guard}
  {s s' inside : State}

/-! One step. -/

theorem run_operation (op : Operation) (s : State) :
    run compile (.operation op) s
      =
    some (Report.ofResult .answered (op.apply s).1, (op.apply s).2) := by
  unfold run
  cases op.apply s with
  | mk result s' => cases result <;> rfl

theorem run_compile_of_ok (node : Node) (demand : Demand) (s : State) :
    run compile (.compile (.ok node) demand) s
      =
    (compile.withDemand node demand s).map fun r => (Report.ofResult .compiled r.1, r.2) := by
  unfold run
  cases compile.withDemand node demand s with
  | none => rfl
  | some r =>
    obtain ⟨result, s'⟩ := r
    cases result <;> rfl

theorem run_block_of_error {e : Error} (h : guard.enter s = .error e) (steps : List Step) :
    run compile (.block guard steps) s = some (.failed e, s) := by
  unfold run
  simp only [Guard.run_of_error h]

theorem run_block_of_ok (h : guard.enter s = .ok inside) (steps : List Step) :
    run compile (.block guard steps) s
      =
    (runAll compile steps inside).map fun r => (.block inside.depth r.1, guard.leave s r.2) := by
  unfold run
  simp only [Guard.run_of_ok h]
  cases runAll compile steps inside <;> rfl

theorem runAll_cons (step : Step) (steps : List Step) (s : State) :
    runAll compile (step :: steps) s
      =
    (run compile step s).bind fun r =>
      (runAll compile steps r.2).map fun rs => ((r.1, r.2.depth) :: rs.1, rs.2) := by
  rw [runAll]
  cases run compile step s with
  | none => rfl
  | some r =>
    simp only [Option.bind_some]
    cases runAll compile steps r.2 <;> rfl

/-! The states of a run. -/

theorem statesAll_cons_of_run {report : Report} (h : run compile step s = some (report, s'))
    (steps : List Step) :
    statesAll compile (step :: steps) s
      =
    states compile step s ++ statesAll compile steps s' := by
  rw [statesAll, h]

theorem states_block_of_error {e : Error} (h : guard.enter s = .error e) (steps : List Step) :
    states compile (.block guard steps) s = [s] := by
  rw [states, h]

theorem states_block_of_ok (h : guard.enter s = .ok inside) (steps : List Step) :
    states compile (.block guard steps) s
      =
    inside :: statesAll compile steps inside ++
      (runAll compile steps inside).toList.map fun r => guard.leave s r.2 := by
  rw [states, h]

theorem getLast?_states {report : Report} (h : run compile step s = some (report, s')) :
    (states compile step s).getLast? = some s' := by
  cases step with
  | operation op =>
    rw [run_operation] at h
    cases h
    rfl
  | compile node demand =>
    rw [states, h]
    rfl
  | block guard steps =>
    cases henter : guard.enter s with
    | error e =>
      rw [run_block_of_error henter] at h
      cases h
      rw [states_block_of_error henter]
      rfl
    | ok inside =>
      rw [run_block_of_ok henter, Option.map_eq_some_iff] at h
      obtain ⟨r, hrun, heq⟩ := h
      cases heq
      rw [states_block_of_ok henter, hrun]
      apply List.getLast?_concat

theorem getLast?_statesAll {reports : List (Report × Nat)}
    (h : runAll compile steps s = some (reports, s')) :
    (s :: statesAll compile steps s).getLast? = some s' := by
  induction steps generalizing s reports with
  | nil =>
    cases h
    rfl
  | cons step steps ih =>
    rw [runAll_cons, Option.bind_eq_some_iff] at h
    obtain ⟨⟨report, between⟩, hstep, h⟩ := h
    rw [Option.map_eq_some_iff] at h
    obtain ⟨⟨reports', last⟩, hsteps, heq⟩ := h
    cases heq
    have hlast := ih hsteps
    rw [statesAll_cons_of_run hstep, ← List.cons_append]
    rw [List.getLast?_append, List.getLast?_cons]
    rw [List.getLast?_cons] at hlast
    rw [getLast?_states hstep]
    cases hrest : (statesAll compile steps between).getLast? with
    | none => simpa [hrest] using hlast
    | some t => simpa [hrest] using hlast

theorem mem_states_of_run {report : Report} (h : run compile step s = some (report, s')) :
    s' ∈ states compile step s :=
  List.mem_of_getLast? (getLast?_states h)

theorem mem_statesAll_of_runAll {reports : List (Report × Nat)}
    (h : runAll compile steps s = some (reports, s')) : s' = s ∨ s' ∈ statesAll compile steps s :=
  List.mem_cons.1 (List.mem_of_getLast? (getLast?_statesAll h))

/--
Whether operations, compilations and guards keep a property of states, as far as the states that
they lead to are allowed.
-/
structure Keeps (compile : CompileFn) (allowed holds : State → Prop) : Prop where
  operation : ∀ (op : Operation) s, holds s → allowed (op.apply s).2 → holds (op.apply s).2
  compilation : ∀ node p s result s', holds s → compile node p s = some (result, s') → holds s'
  enter : ∀ (guard : Guard) s inside, holds s → guard.enter s = .ok inside → allowed inside →
    holds inside
  leave : ∀ (guard : Guard) s inside after, holds s → guard.enter s = .ok inside → holds inside →
    holds after → holds (guard.leave s after)

section

variable {allowed holds : State → Prop}

theorem forall_statesAll
    (hsteps : ∀ step ∈ steps, ∀ s, holds s → (∀ t ∈ states compile step s, allowed t) →
      ∀ t ∈ states compile step s, holds t)
    (hs : holds s) (hallowed : ∀ t ∈ statesAll compile steps s, allowed t) :
    ∀ t ∈ statesAll compile steps s, holds t := by
  induction steps generalizing s with
  | nil =>
    intro t ht
    cases ht
  | cons step steps ih =>
    rw [List.forall_mem_cons] at hsteps
    unfold statesAll at hallowed ⊢
    rw [List.forall_mem_append] at hallowed ⊢
    have hstep := hsteps.1 s hs hallowed.1
    refine ⟨hstep, ?_⟩
    cases hrun : run compile step s with
    | none =>
      intro t ht
      cases ht
    | some r =>
      rw [hrun] at hallowed
      exact ih hsteps.2 (hstep _ (mem_states_of_run hrun)) hallowed.2

theorem Keeps.states (h : Keeps compile allowed holds) (step : Step) :
    ∀ s, holds s → (∀ t ∈ states compile step s, allowed t) →
      ∀ t ∈ states compile step s, holds t := by
  induction step with
  | operation op =>
    intro s hs hallowed
    simp only [Step.states, List.forall_mem_singleton] at hallowed ⊢
    exact h.operation op s hs hallowed
  | compile node demand =>
    intro s hs hallowed t ht
    cases node with
    | error e =>
      cases List.mem_singleton.1 ht
      exact hs
    | ok node =>
      simp only [Step.states, run_compile_of_ok, List.mem_map, Option.mem_toList] at ht
      obtain ⟨r, hrun, rfl⟩ := ht
      obtain ⟨⟨result, s'⟩, hcompile, rfl⟩ := Option.map_eq_some_iff.1 hrun
      unfold CompileFn.withDemand at hcompile
      split at hcompile
      . cases hcompile
        exact hs
      . exact h.compilation _ _ _ _ _ hs hcompile
  | block guard steps ih =>
    intro s hs hallowed
    cases henter : guard.enter s with
    | error e =>
      rw [states_block_of_error henter, List.forall_mem_singleton]
      exact hs
    | ok inside =>
      rw [states_block_of_ok henter, List.forall_mem_append, List.forall_mem_cons] at hallowed ⊢
      have hinside := h.enter guard s inside hs henter hallowed.1.1
      have hbody := forall_statesAll ih hinside hallowed.1.2
      refine ⟨⟨hinside, hbody⟩, ?_⟩
      intro t ht
      simp only [List.mem_map, Option.mem_toList] at ht
      obtain ⟨⟨reports, after⟩, hrun, rfl⟩ := ht
      apply h.leave guard s inside after hs henter hinside
      rcases mem_statesAll_of_runAll hrun with rfl | hmem
      . exact hinside
      . exact hbody after hmem

theorem Keeps.runAll (h : Keeps compile allowed holds) (hs : holds s)
    (hallowed : ∀ t ∈ statesAll compile steps s, allowed t) {reports : List (Report × Nat)}
    (hrun : runAll compile steps s = some (reports, s')) : holds s' := by
  rcases mem_statesAll_of_runAll hrun with rfl | hmem
  . exact hs
  . exact forall_statesAll (fun step _ => h.states step) hs hallowed s' hmem

end

/-! Every script runs to its end with the standard compiler. -/

theorem exists_isSome_runAll {d : Dialect}
    (h : ∀ step ∈ steps, ∃ enough, ∀ depth, enough ≤ depth → ∀ s,
      (run ((Compiler.standard.withDialect d).compileAt depth) step s).isSome) :
    ∃ enough, ∀ depth, enough ≤ depth → ∀ s,
      (runAll ((Compiler.standard.withDialect d).compileAt depth) steps s).isSome := by
  induction steps with
  | nil => exact ⟨0, fun _ _ _ => rfl⟩
  | cons step steps ih =>
    rw [List.forall_mem_cons] at h
    obtain ⟨enough, hstep⟩ := h.1
    obtain ⟨enough', hsteps⟩ := ih h.2
    refine ⟨max enough enough', ?_⟩
    intro depth hdepth s
    obtain ⟨r, hrun⟩ := Option.isSome_iff_exists.1 (hstep depth (by omega) s)
    rw [runAll_cons, hrun, Option.bind_some, Option.isSome_map]
    exact hsteps depth (by omega) r.2

theorem exists_isSome_run (d : Dialect) (step : Step) :
    ∃ enough, ∀ depth, enough ≤ depth → ∀ s,
      (run ((Compiler.standard.withDialect d).compileAt depth) step s).isSome := by
  induction step with
  | operation op =>
    refine ⟨0, ?_⟩
    intro depth _ s
    rw [run_operation]
    rfl
  | compile node demand =>
    cases node with
    | error e => exact ⟨0, fun _ _ _ => rfl⟩
    | ok node =>
      refine ⟨2 * node.height + 2, ?_⟩
      intro depth hdepth s
      rw [run_compile_of_ok, Option.isSome_map]
      unfold CompileFn.withDemand
      split
      . rfl
      . rw [Compiler.computes_standard d hdepth]
        rfl
  | block guard steps ih =>
    obtain ⟨enough, hsteps⟩ := exists_isSome_runAll ih
    refine ⟨enough, ?_⟩
    intro depth hdepth s
    cases henter : guard.enter s with
    | error e =>
      rw [run_block_of_error henter]
      rfl
    | ok inside =>
      rw [run_block_of_ok henter, Option.isSome_map]
      exact hsteps depth hdepth inside

end Step

namespace Compiler

/--
Whether a step of a script ends in a state, with a report and a state that is left.
-/
def Runs (c : Compiler) (step : Step) (s : State) (report : Report) (s' : State) : Prop :=
  ∃ depth, step.run (c.compileAt depth) s = some (report, s')

def RunsAll (c : Compiler) (steps : List Step) (s : State) (reports : List (Report × Nat))
    (s' : State) : Prop :=
  ∃ depth, Step.runAll (c.compileAt depth) steps s = some (reports, s')

/--
Whether a script that is started in a state passes through another one, maybe under open guards.
-/
def Passes (c : Compiler) (steps : List Step) (s t : State) : Prop :=
  ∃ depth, t ∈ Step.statesAll (c.compileAt depth) steps s

theorem runs_scope {c : Compiler} {depth : Nat} {s inside after : State} {b : Bindings}
    {steps : List Step} {reports : List (Report × Nat)} (hpush : s.push b = .ok inside)
    (hrun : Step.runAll (c.compileAt depth) steps inside = some (reports, after)) :
    c.Runs (.block (.scope b) steps) s (.block inside.depth reports) (after.cutTo s.depth) := by
  have henter : (Guard.scope b).enter s = .ok inside := hpush
  refine ⟨depth, ?_⟩
  rw [Step.run_block_of_ok henter, hrun]
  rfl

theorem runs_scope_of_error {s : State} {b : Bindings} {e : Error} (h : s.push b = .error e)
    (c : Compiler) (steps : List Step) : c.Runs (.block (.scope b) steps) s (.failed e) s := by
  have henter : (Guard.scope b).enter s = .error e := h
  exact ⟨0, Step.run_block_of_error henter steps⟩

/--
Compiling with the standard compiler adds values to the parameters of the state, whatever the depth.
-/
theorem eq_of_compileAt_standard {d : Dialect} {depth : Nat} {node : Node} {p : Precedence}
    {s : State} {r : Except Error String × State}
    (h : (standard.withDialect d).compileAt depth node p s = some r) :
    r = ((node.outcome d p).resultIn s, s.addValues (node.outcome d p).values) := by
  have hruns : (standard.withDialect d).Compiles node p s r := ⟨depth, h⟩
  exact hruns.unique (compiles_standard d node p s)

end Compiler

end SqlExpr
