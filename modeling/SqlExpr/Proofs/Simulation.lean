import SqlExpr.Proofs.Script

/-!
This module contains runs of one script in two states. If the states are in a relation that
operations, compilations and guards keep, answering alike, then the runs report the same and end in
states that are in this relation (`Step.Simulates.runAll`).
-/

namespace SqlExpr.Step

/--
Whether operations, compilations and guards answer alike in two states of a relation and lead to
such states again. This is asked of some steps only, and as far as the states of the first run are
allowed.
-/
structure Simulates (compile : CompileFn) (mayRun : Step → Prop) (allowed : State → Prop)
    (R : State → State → Prop) : Prop where
  depth : ∀ s t, R s t → s.depth = t.depth
  operation : ∀ op s t, mayRun (.operation op) → R s t → allowed (op.apply s).2 →
    (op.apply s).1 = (op.apply t).1 ∧ R (op.apply s).2 (op.apply t).2
  compilation : ∀ node demand s t r r', R s t → compile.withDemand node demand s = some r →
    compile.withDemand node demand t = some r' → r.1 = r'.1 ∧ R r.2 r'.2
  enter : ∀ guard steps s t inside, mayRun (.block guard steps) → R s t →
    guard.enter s = .ok inside → allowed inside →
    ∃ inside', guard.enter t = .ok inside' ∧ R inside inside'
  enter_error : ∀ guard steps s t e, mayRun (.block guard steps) → R s t →
    guard.enter s = .error e → guard.enter t = .error e
  leave : ∀ guard steps s t after after', mayRun (.block guard steps) → R s t → R after after' →
    R (guard.leave s after) (guard.leave t after')

namespace Simulates

variable {compile : CompileFn} {mayRun : Step → Prop} {allowed : State → Prop}
  {R : State → State → Prop}

/--
Whether a step reports the same in all related states and leads to related ones again.
-/
def Alike (compile : CompileFn) (allowed : State → Prop) (R : State → State → Prop)
    (step : Step) : Prop :=
  ∀ s t r r', R s t → (∀ u ∈ states compile step s, allowed u) →
    run compile step s = some r → run compile step t = some r' → r.1 = r'.1 ∧ R r.2 r'.2

theorem runAll_of_alike (h : Simulates compile mayRun allowed R) {steps : List Step}
    (hsteps : ∀ step ∈ steps, Alike compile allowed R step) {s t s' t' : State}
    {reports reports' : List (Report × Nat)} (hst : R s t)
    (hallowed : ∀ u ∈ statesAll compile steps s, allowed u)
    (hrun : runAll compile steps s = some (reports, s'))
    (hrun' : runAll compile steps t = some (reports', t')) : reports = reports' ∧ R s' t' := by
  induction steps generalizing s t reports reports' with
  | nil =>
    cases hrun
    cases hrun'
    exact ⟨rfl, hst⟩
  | cons step steps ih =>
    rw [List.forall_mem_cons] at hsteps
    simp only [runAll_cons, Option.bind_eq_some_iff, Option.map_eq_some_iff] at hrun hrun'
    obtain ⟨r, hstep, rest, hrest, heq⟩ := hrun
    obtain ⟨r', hstep', rest', hrest', heq'⟩ := hrun'
    cases heq
    cases heq'
    rw [statesAll_cons_of_run hstep, List.forall_mem_append] at hallowed
    obtain ⟨hreport, hbetween⟩ := hsteps.1 s t r r' hst hallowed.1 hstep hstep'
    obtain ⟨hreports, hend⟩ := ih hsteps.2 hbetween hallowed.2 hrest hrest'
    rw [hreport, hreports, h.depth _ _ hbetween]
    exact ⟨rfl, hend⟩

theorem alike (h : Simulates compile mayRun allowed R) {step : Step}
    (hmay : ∀ part ∈ parts step, mayRun part) : Alike compile allowed R step := by
  induction step with
  | operation op =>
    intro s t r r' hst hallowed hrun hrun'
    rw [run_operation] at hrun hrun'
    cases hrun
    cases hrun'
    rw [states, List.forall_mem_singleton] at hallowed
    obtain ⟨hanswer, hend⟩ := h.operation op s t (hmay _ List.mem_cons_self) hst hallowed
    exact ⟨congrArg (Report.ofResult _) hanswer, hend⟩
  | compile node demand =>
    intro s t r r' hst hallowed hrun hrun'
    cases node with
    | error e =>
      cases hrun
      cases hrun'
      exact ⟨rfl, hst⟩
    | ok node =>
      rw [run_compile_of_ok, Option.map_eq_some_iff] at hrun hrun'
      obtain ⟨result, hcompile, heq⟩ := hrun
      obtain ⟨result', hcompile', heq'⟩ := hrun'
      cases heq
      cases heq'
      obtain ⟨hresult, hend⟩ := h.compilation node demand s t result result' hst hcompile hcompile'
      exact ⟨congrArg (Report.ofResult _) hresult, hend⟩
  | block guard steps ih =>
    intro s t r r' hst hallowed hrun hrun'
    have hguard : mayRun (.block guard steps) := hmay _ List.mem_cons_self
    cases henter : guard.enter s with
    | error e =>
      rw [run_block_of_error henter] at hrun
      rw [run_block_of_error (h.enter_error guard steps s t e hguard hst henter)] at hrun'
      cases hrun
      cases hrun'
      exact ⟨rfl, hst⟩
    | ok inside =>
      rw [states_block_of_ok henter, List.forall_mem_append, List.forall_mem_cons] at hallowed
      obtain ⟨⟨hinside, hbody⟩, _⟩ := hallowed
      obtain ⟨inside', henter', hentered⟩ :=
        h.enter guard steps s t inside hguard hst henter hinside
      rw [run_block_of_ok henter, Option.map_eq_some_iff] at hrun
      rw [run_block_of_ok henter', Option.map_eq_some_iff] at hrun'
      obtain ⟨⟨reports, after⟩, hrun, heq⟩ := hrun
      obtain ⟨⟨reports', after'⟩, hrun', heq'⟩ := hrun'
      cases heq
      cases heq'
      have hsteps : ∀ step ∈ steps, Alike compile allowed R step := by
        intro step hstep
        apply ih step hstep
        intro part hpart
        apply hmay
        unfold parts
        exact List.mem_cons_of_mem _ (mem_partsAll hstep hpart)
      obtain ⟨hreports, hafter⟩ := h.runAll_of_alike hsteps hentered hbody hrun hrun'
      rw [hreports, h.depth _ _ hentered]
      exact ⟨rfl, h.leave guard steps s t after after' hguard hst hafter⟩

theorem runAll (h : Simulates compile mayRun allowed R) {steps : List Step}
    (hmay : ∀ part ∈ partsAll steps, mayRun part) {s t s' t' : State}
    {reports reports' : List (Report × Nat)} (hst : R s t)
    (hallowed : ∀ u ∈ statesAll compile steps s, allowed u)
    (hrun : Step.runAll compile steps s = some (reports, s'))
    (hrun' : Step.runAll compile steps t = some (reports', t')) :
    reports = reports' ∧ R s' t' := by
  apply h.runAll_of_alike _ hst hallowed hrun hrun'
  intro step hstep
  apply h.alike
  intro part hpart
  exact hmay part (mem_partsAll hstep hpart)

end Simulates

end SqlExpr.Step
