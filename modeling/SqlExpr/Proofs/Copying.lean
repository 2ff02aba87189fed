import SqlExpr.Proofs.Isolation
import SqlExpr.Proofs.Simulation
import SqlExpr.Proofs.State.Copied

/-!
This module contains the proof that a script cannot tell whether a scope copies a name or shares it,
and that a state after the scope can (`Compiler.copying_decides`). The two runs are in the relation
`State.Copied` all the way, in which the states differ in where the name is bound.
-/

namespace SqlExpr

/--
Whether a step tells the bindings of one name in different frames apart, or hides a frame.
-/
def Step.looksAtFrames : Step → Bool
  | .operation op => op.looksAtFrames
  | .block .parentView _ => true
  | _ => false

namespace State.Copied

variable {name : String} {caller shared copied : State}

theorem resolve_eq (h : Copied name caller shared copied) (demand : Demand) :
    demand.resolve shared = demand.resolve copied := by
  cases demand with
  | ambient => exact h.precedence_eq
  | exactly p => rfl

theorem resultIn_eq {α : Type} (h : Copied name caller shared copied) (o : Outcome α) :
    o.resultIn shared = o.resultIn copied := by
  unfold Outcome.resultIn
  rw [h.parameters_eq]

theorem addValues (h : Copied name caller shared copied) (vs : List Value) :
    Copied name caller (shared.addValues vs) (copied.addValues vs) := by
  unfold State.addValues
  rw [h.parameters_eq]
  split
  . exact h.set _ _
  . exact h

end State.Copied

namespace Compiler

theorem simulates_copied (d : Dialect) (depth : Nat) (name : String) (caller : State) :
    Step.Simulates ((standard.withDialect d).compileAt depth) (·.looksAtFrames = false)
      (caller.depth < ·.depth) (State.Copied name caller) where
  depth s t h := h.depth_eq
  operation op s t hop h hdepth := h.apply op hop hdepth
  compilation node demand s t r r' h hrun hrun' := by
    unfold CompileFn.withDemand at hrun hrun'
    rw [h.resolve_eq] at hrun
    cases hresolve : demand.resolve t with
    | error e =>
      rw [hresolve] at hrun hrun'
      cases hrun
      cases hrun'
      exact ⟨rfl, h⟩
    | ok p =>
      rw [hresolve] at hrun hrun'
      rw [eq_of_compileAt_standard hrun, eq_of_compileAt_standard hrun']
      exact ⟨h.resultIn_eq _, h.addValues _⟩
  enter guard steps s t inside hguard h henter hdepth := by
    cases guard with
    | scope b => exact h.push henter
    | parentView => cases hguard
  enter_error guard steps s t e hguard h henter := by
    cases guard with
    | scope b => exact h.push_of_error henter
    | parentView => cases hguard
  leave guard steps s t after after' hguard h hafter := by
    cases guard with
    | scope b =>
      change State.Copied name caller (after.cutTo s.depth) (after'.cutTo t.depth)
      rw [h.depth_eq]
      exact hafter.cutTo h.depth_lt
    | parentView => cases hguard

/--
A script that runs in a scope, does not look at single frames and neither removes nor hides the
frame of the scope reports the same whether the scope shares a name or copies it. After the scope
with the copy the name has the value from before; after the other one it has the value that the copy
has at the end, and this is all in which the states differ. If the bindings copy the name already,
then both scopes have the copy, and the states are equal.
-/
theorem copying_decides (d : Dialect) {s : State} {b : Bindings} {name : String}
    (hbound : (s.get? name).isSome) (hown : name ∉ b.values.map Prod.fst) {steps : List Step}
    (hsteps : ∀ step ∈ Step.partsAll steps, step.looksAtFrames = false)
    (hkeeps : ∀ inside, s.push b = .ok inside →
      ∀ t, (standard.withDialect d).Passes steps inside t → s.depth < t.depth) :
    ∃ report shared copied,
      (standard.withDialect d).Runs (.block (.scope b) steps) s report shared ∧
      (standard.withDialect d).Runs (.block (.scope (b.copy name)) steps) s report copied ∧
      ((∃ e, s.push b = .error e ∧ report = .failed e ∧ shared = s ∧ copied = s) ∨
        ∃ inside reports after frame a, s.push (b.copy name) = .ok inside ∧
          report = .block inside.depth reports ∧
          (standard.withDialect d).RunsAll steps inside reports after ∧
          after.cutTo inside.depth = .inner frame copied ∧ frame.get? name = some a ∧
          copied.getAllOr name none = s.getAllOr name none ∧
          shared = if name ∈ b.copies then copied else copied.set name a) := by
  cases hpush : s.push b with
  | error e =>
    have hpush' := State.push_copy_of_error hbound hpush
    exact ⟨.failed e, s, s, runs_scope_of_error hpush _ steps, runs_scope_of_error hpush' _ steps,
      .inl ⟨e, rfl, rfl, rfl, rfl⟩⟩
  | ok inside =>
    obtain ⟨depth, hends⟩ := Step.exists_isSome_runAll fun step _ => Step.exists_isSome_run d step
    obtain ⟨⟨reports, after⟩, hrun⟩ :=
      Option.isSome_iff_exists.1 (hends depth (Nat.le_refl depth) inside)
    have hpasses := fun t ht => hkeeps inside hpush t ⟨depth, ht⟩
    by_cases hcopies : name ∈ b.copies
    -- Both scopes hold a copy.
    . have hpush' := State.push_copy_of_mem hcopies hpush
      have hmem : name ∈ b.copies ++ b.values.map Prod.fst := List.mem_append_left _ hcopies
      have hafter := (keeps_over d depth _ s).runAll (.of_push hpush) hpasses hrun
      obtain ⟨frame, hframe, hbinds, hkept⟩ := hafter.exists_cutTo
      obtain ⟨a, ha⟩ := Option.isSome_iff_exists.1 (hbinds name hmem)
      rw [← State.depth_push hpush] at hframe
      exact ⟨_, _, _, runs_scope hpush hrun, runs_scope hpush' hrun,
        .inr ⟨inside, reports, after, frame, a, hpush', rfl, ⟨depth, hrun⟩, hframe, ha,
          hkept.getAllOr hmem none, (if_pos hcopies).symm⟩⟩
    . obtain ⟨inside', hpush', hinside⟩ := State.Copied.of_push hbound hcopies hown hpush
      obtain ⟨⟨reports', after'⟩, hrun'⟩ :=
        Option.isSome_iff_exists.1 (hends depth (Nat.le_refl depth) inside')
      obtain ⟨rfl, hafter⟩ := (simulates_copied d depth name s).runAll hsteps hinside hpasses
        hrun hrun'
      obtain ⟨frame, a, hframe, ha, hshared, hkept⟩ := hafter.exists_cutTo
      have hruns := runs_scope (c := standard.withDialect d) hpush hrun
      rw [hinside.depth_eq, hshared] at hruns
      rw [← State.depth_push hpush'] at hframe
      exact ⟨_, _, _, hruns, runs_scope hpush' hrun',
        .inr ⟨inside', reports, after', frame, a, hpush', rfl, ⟨depth, hrun'⟩, hframe, ha,
          hkept.getAllOr (List.mem_singleton.2 rfl) none, (if_neg hcopies).symm⟩⟩

/--
A script that writes to the name in the scope, under a frame that copies it again and in a nested
scope that binds it, asks for all bindings, and compiles and binds values.
-/
theorem copying_decides_flag :
    let c := standard.withDialect .generic
    let s := State.inner (.ofList [("flag", .text "off"), ("note", .text "a")]) .new
    let b := Bindings.empty.bind "own" (.text "b")
    let steps : List Step :=
      [.operation (.set "flag" (.text "on")), .operation (.push (Bindings.empty.copy "flag")),
        .operation (.set "flag" (.text "again")), .operation .compact, .operation .pop,
        .block (.scope (Bindings.empty.bind "flag" (.text "new"))) [.operation (.get "flag")],
        .compile (.ok (.scalar (.bool true))) .ambient, .operation (.bind (.bool true))]
    ∃ report shared copied,
      c.Runs (.block (.scope b) steps) s report shared ∧
      c.Runs (.block (.scope (b.copy "flag")) steps) s report copied ∧
      copied.getAllOr "flag" none = [some (.text "off"), none] ∧
      ∃ a, shared = copied.set "flag" a := by
  intro c s b steps
  have hbound : (s.get? "flag").isSome := rfl
  have hown : "flag" ∉ b.values.map Prod.fst := by decide
  have hsteps : ∀ step ∈ Step.partsAll steps, step.looksAtFrames = false := by
    have hall : (Step.partsAll steps).all fun step => !step.looksAtFrames := rfl
    simpa using hall
  have hkeeps : ∀ inside, s.push b = .ok inside → ∀ t, c.Passes steps inside t →
      s.depth < t.depth := by
    intro inside hpush t ⟨depth, ht⟩
    cases hpush
    have hall : (Step.statesAll (c.compileAt depth) steps
        (.inner (.ofList [("own", .text "b")]) s)).all fun t => s.depth < t.depth := by
      cases depth <;> rfl
    simpa using List.all_eq_true.1 hall t ht
  obtain ⟨report, shared, copied, hshared, hcopied, herror | hend⟩ :=
    copying_decides .generic hbound hown hsteps hkeeps
  . obtain ⟨e, hpush, _⟩ := herror
    cases hpush
  . obtain ⟨_, _, _, _, a, _, _, _, _, _, hvalues, heq⟩ := hend
    exact ⟨report, shared, copied, hshared, hcopied, hvalues, a, heq⟩

end Compiler

end SqlExpr
