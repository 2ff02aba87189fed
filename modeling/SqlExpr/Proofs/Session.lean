import SqlExpr.Proofs.Script
import SqlExpr.Proofs.State.Session

/-!
This module contains the proof that compilations and scripts do nothing to a state but what sessions
do (`Compiler.leads_compileAt`, `Step.exists_leads`). Every state that a script passes through, also
under the guards of its blocks, is the state of a session.
-/

namespace SqlExpr

namespace CompileFn

/--
Whether some events do to the state what compiling a node does, and close the guards that they open.
-/
def Leads (compile : CompileFn) : Prop :=
  ∀ node p s result s', compile node p s = some (result, s') → s.Leads [] s'

theorem Leads.withDemand {compile : CompileFn} (h : compile.Leads) {node : Node} {demand : Demand}
    {s s' : State} {result : Except Error String}
    (hcompile : compile.withDemand node demand s = some (result, s')) : s.Leads [] s' := by
  unfold CompileFn.withDemand at hcompile
  split at hcompile
  . cases hcompile
    exact .refl s
  . exact h _ _ _ _ _ hcompile

end CompileFn

theorem Program.leads_run {c : Compiler} {compile : CompileFn} (hcompile : compile.Leads)
    {program : Program} {s s' : State} {result : Except Error Fragment}
    (h : program.run c compile s = some (result, s')) : s.Leads [] s' := by
  induction program generalizing s s' result with
  | done fragment =>
    cases h
    exact .refl s
  | fail e =>
    cases h
    exact .refl s
  | perform op next ih => exact (State.leads_apply op s).trans (ih _ h)
  | compile node demand next ih =>
    simp only [run] at h
    split at h
    . cases h
    . next result' between hnested => exact (hcompile.withDemand hnested).trans (ih _ h)
  | compileAlone node next ih =>
    simp only [run] at h
    split at h
    . cases h
    . exact ih _ h
  | handles kind next ih => exact ih _ h
  | dialect next ih => exact ih _ h
  | within guard body next ihbody ih =>
    simp only [run] at h
    split at h
    . cases h
    . next result' between hguard =>
      exact (Guard.leads_run (fun _ _ _ => ihbody) hguard).trans (ih _ h)

theorem Compiler.leads_compileAt (c : Compiler) (depth : Nat) : (c.compileAt depth).Leads := by
  induction depth with
  | zero =>
    intro node p s result s' h
    cases h
  | succ depth ih =>
    intro node p s result s' h
    unfold compileAt at h
    split at h
    . cases h
      exact .refl s
    . apply Guard.leads_run _ h
      intro inside r after hbody
      split at hbody
      . cases hbody
      . next hrun =>
        cases hbody
        exact Program.leads_run ih hrun
      . next hrun =>
        cases hbody
        exact Program.leads_run ih hrun
      . next hrun =>
        exact (Program.leads_run ih hrun).trans (Guard.leads_run (fun _ _ _ => ih _ _ _ _ _) hbody)

namespace Step

variable {compile : CompileFn} {step : Step} {steps : List Step} {s s' t : State}

theorem leads_runAll_of_run
    (hsteps : ∀ step ∈ steps, ∀ s report s', run compile step s = some (report, s') →
      s.Leads [] s')
    {reports : List (Report × Nat)} (h : runAll compile steps s = some (reports, s')) :
    s.Leads [] s' := by
  induction steps generalizing s reports with
  | nil =>
    cases h
    exact .refl _
  | cons step steps ih =>
    rw [List.forall_mem_cons] at hsteps
    rw [runAll_cons, Option.bind_eq_some_iff] at h
    obtain ⟨⟨report, between⟩, hstep, h⟩ := h
    obtain ⟨⟨reports', last⟩, hrest, heq⟩ := Option.map_eq_some_iff.1 h
    cases heq
    exact (hsteps.1 s report between hstep).trans (ih hsteps.2 hrest)

theorem leads_run (hcompile : compile.Leads) (step : Step) (s : State) (report : Report)
    (s' : State) (h : run compile step s = some (report, s')) : s.Leads [] s' := by
  induction step generalizing s report s' with
  | operation op =>
    rw [run_operation] at h
    cases h
    exact State.leads_apply op s
  | compile node demand =>
    cases node with
    | error e =>
      cases h
      exact .refl s
    | ok node =>
      rw [run_compile_of_ok] at h
      obtain ⟨⟨result, after⟩, hnode, heq⟩ := Option.map_eq_some_iff.1 h
      cases heq
      exact hcompile.withDemand hnode
  | block guard steps ih =>
    cases henter : guard.enter s with
    | error e =>
      rw [run_block_of_error henter] at h
      cases h
      exact .refl s
    | ok inside =>
      rw [run_block_of_ok henter] at h
      obtain ⟨⟨reports, after⟩, hbody, heq⟩ := Option.map_eq_some_iff.1 h
      cases heq
      obtain ⟨opened, hbegin, _, hclose⟩ := Guard.begin_of_ok henter
      rw [← hclose]
      exact ((Guard.leads_begin hbegin).trans (leads_runAll_of_run ih hbody)).close

theorem exists_leads_of_mem_statesAll (hcompile : compile.Leads)
    (hsteps : ∀ step ∈ steps, ∀ s, ∀ t ∈ states compile step s, ∃ opened, s.Leads opened t)
    (h : t ∈ statesAll compile steps s) : ∃ opened, s.Leads opened t := by
  induction steps generalizing s with
  | nil => cases h
  | cons step steps ih =>
    rw [List.forall_mem_cons] at hsteps
    unfold statesAll at h
    rcases List.mem_append.1 h with hstep | hrest
    . exact hsteps.1 s t hstep
    . cases hrun : run compile step s with
      | none =>
        rw [hrun] at hrest
        cases hrest
      | some r =>
        obtain ⟨report, between⟩ := r
        rw [hrun] at hrest
        obtain ⟨opened, hlater⟩ := ih hsteps.2 hrest
        exact ⟨_, (leads_run hcompile step s report between hrun).trans hlater⟩

/--
A state that a step passes through is reached by events, which leave the guards of the blocks open
that the state is in.
-/
theorem exists_leads_of_mem_states (hcompile : compile.Leads) (step : Step) :
    ∀ s, ∀ t ∈ states compile step s, ∃ opened, s.Leads opened t := by
  induction step with
  | operation op =>
    intro s t ht
    cases List.mem_singleton.1 ht
    exact ⟨[], State.leads_apply op s⟩
  | compile node demand =>
    intro s t ht
    simp only [states, List.mem_map, Option.mem_toList] at ht
    obtain ⟨⟨report, after⟩, hrun, rfl⟩ := ht
    exact ⟨[], leads_run hcompile _ s report after hrun⟩
  | block guard steps ih =>
    intro s t ht
    cases henter : guard.enter s with
    | error e =>
      rw [states_block_of_error henter, List.mem_singleton] at ht
      exact ⟨[], ht ▸ .refl s⟩
    | ok inside =>
      rw [states_block_of_ok henter, List.mem_append, List.mem_cons] at ht
      obtain ⟨opened, hbegin, _, hclose⟩ := Guard.begin_of_ok henter
      have hinside := Guard.leads_begin hbegin
      rcases ht with (rfl | hbody) | hleft
      . exact ⟨_, hinside⟩
      . obtain ⟨inner, hinner⟩ := exists_leads_of_mem_statesAll hcompile ih hbody
        exact ⟨_, hinside.trans hinner⟩
      . simp only [List.mem_map, Option.mem_toList] at hleft
        obtain ⟨⟨reports, after⟩, hrun, rfl⟩ := hleft
        have hafter := leads_runAll_of_run (fun step _ => leads_run hcompile step) hrun
        rw [← hclose]
        exact ⟨_, (hinside.trans hafter).close⟩

theorem exists_leads (hcompile : compile.Leads) (h : t ∈ statesAll compile steps s) :
    ∃ opened, s.Leads opened t :=
  exists_leads_of_mem_statesAll hcompile (fun step _ => exists_leads_of_mem_states hcompile step) h

end Step

end SqlExpr
