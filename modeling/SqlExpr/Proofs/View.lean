import SqlExpr.Proofs.Rewriting
import SqlExpr.Proofs.Script

/-!
This module contains the proof that a view of the parent frames acts on the frames of the caller and
on nothing else (`Compiler.view_acts_on_caller`). A script under a scope and a view in it runs as it
would run without them; what it has written to the caller's frames stays, what it has pushed goes,
and the frame of the scope is not touched. It may remove frames that it has pushed, but none of those
that it starts with (`Step.PopsAbove`).
-/

namespace SqlExpr

namespace State

variable {s s' : State}

theorem le_depth_effect {op : Operation} (h : op.Effect s s') (hop : op ≠ .pop) :
    s.depth ≤ s'.depth := by
  cases h with
  | none => exact Nat.le_refl _
  | write name a _ => exact Nat.le_of_eq (depth_set s name a).symm
  | push b _ hpush =>
    rw [depth_push hpush]
    apply Nat.le_succ
  | pop heq _ => contradiction

theorem le_depth_leave {guard : Guard} {inside after : State} {base : Nat}
    (henter : guard.enter s = .ok inside) (hs : base ≤ s.depth)
    (hafter : min base inside.depth ≤ after.depth) : base ≤ (guard.leave s after).depth := by
  cases guard with
  | scope b =>
    have hdepth := depth_push henter
    change base ≤ (after.cutTo s.depth).depth
    rw [depth_cutTo after s.depth_pos]
    omega
  | parentView =>
    cases s with
    | root frame => cases henter
    | inner hidden outer =>
      cases henter
      simp only [Guard.leave, depth] at hs ⊢
      rw [depth_cutTo after inside.depth_pos]
      omega

end State

namespace Step

mutual

/--
Whether every removal of a frame in a run of a step leaves at least `base` frames. Under a view that
hides one of these frames, it leaves the others.
-/
def PopsAbove (compile : CompileFn) (base : Nat) : Step → State → Prop
  | .operation op, s => op = .pop → base ≤ (op.apply s).2.depth
  | .compile _ _, _ => True
  | .block guard steps, s =>
    ∀ inside, guard.enter s = .ok inside →
      PopsAboveAll compile (min base inside.depth) steps inside

def PopsAboveAll (compile : CompileFn) (base : Nat) : List Step → State → Prop
  | [], _ => True
  | step :: steps, s =>
    PopsAbove compile base step s ∧
      ∀ report s', run compile step s = some (report, s') → PopsAboveAll compile base steps s'

end

variable {compile : CompileFn} {steps : List Step} {s s' : State} {base : Nat}

/--
Whether a step that removes frames only down to a depth leaves at least so many.
-/
def StaysAbove (compile : CompileFn) (step : Step) : Prop :=
  ∀ base s report s', base ≤ s.depth → PopsAbove compile base step s →
    run compile step s = some (report, s') → base ≤ s'.depth

theorem le_depth_of_runAll (hsteps : ∀ step ∈ steps, StaysAbove compile step)
    (hs : base ≤ s.depth) (hpops : PopsAboveAll compile base steps s)
    {reports : List (Report × Nat)} (hrun : runAll compile steps s = some (reports, s')) :
    base ≤ s'.depth := by
  induction steps generalizing s reports with
  | nil =>
    cases hrun
    exact hs
  | cons step steps ih =>
    rw [List.forall_mem_cons] at hsteps
    rw [runAll_cons, Option.bind_eq_some_iff] at hrun
    obtain ⟨⟨report, between⟩, hstep, hrest⟩ := hrun
    rw [Option.map_eq_some_iff] at hrest
    obtain ⟨⟨reports', last⟩, hrest, heq⟩ := hrest
    cases heq
    unfold PopsAboveAll at hpops
    have hbetween := hsteps.1 base s report between hs hpops.1 hstep
    exact ih hsteps.2 hbetween (hpops.2 report between hstep) hrest

theorem popsAboveAll_operation_cons (op : Operation) :
    PopsAboveAll compile base (.operation op :: steps) s ↔
      (op = .pop → base ≤ (op.apply s).2.depth) ∧
        PopsAboveAll compile base steps (op.apply s).2 := by
  rw [PopsAboveAll, PopsAbove, run_operation]
  constructor
  . intro h
    exact ⟨h.1, h.2 _ _ rfl⟩
  . intro h
    refine ⟨h.1, ?_⟩
    intro report s' hrun
    cases hrun
    exact h.2

theorem staysAbove (hcompile : compile.KeepsDepth) (step : Step) : StaysAbove compile step := by
  induction step with
  | operation op =>
    intro base s report s' hs hpops hrun
    rw [run_operation] at hrun
    cases hrun
    unfold PopsAbove at hpops
    by_cases hop : op = .pop
    . exact hpops hop
    . exact Nat.le_trans hs (State.le_depth_effect (op.effect_apply s) hop)
  | compile node demand =>
    intro base s report s' hs _ hrun
    cases node with
    | error e =>
      cases hrun
      exact hs
    | ok node =>
      rw [run_compile_of_ok, Option.map_eq_some_iff] at hrun
      obtain ⟨⟨result, after⟩, hresult, heq⟩ := hrun
      cases heq
      rw [hcompile.withDemand hresult]
      exact hs
  | block guard steps ih =>
    intro base s report s' hs hpops hrun
    cases henter : guard.enter s with
    | error e =>
      rw [run_block_of_error henter] at hrun
      cases hrun
      exact hs
    | ok inside =>
      rw [run_block_of_ok henter, Option.map_eq_some_iff] at hrun
      obtain ⟨⟨reports, after⟩, hbody, heq⟩ := hrun
      cases heq
      unfold PopsAbove at hpops
      apply State.le_depth_leave henter hs
      exact le_depth_of_runAll ih (Nat.min_le_right _ _) (hpops inside henter) hbody

end Step

namespace Compiler

theorem keepsDepth_standard (d : Dialect) (depth : Nat) :
    ((standard.withDialect d).compileAt depth).KeepsDepth := by
  intro node p s result s' hcompile
  cases eq_of_compileAt_standard hcompile
  apply State.depth_addValues

/--
A script in a scope and a view of its parent frames reports what it reports without both. The frame
of the scope is as it was after the view, on top of the caller's frames as the script leaves them,
and when the scope is closed exactly these are left.
-/
theorem view_acts_on_caller (d : Dialect) {s inside : State} {b : Bindings}
    (hpush : s.push b = .ok inside) (steps : List Step)
    (hpops : ∀ depth,
      Step.PopsAboveAll ((standard.withDialect d).compileAt depth) s.depth steps s) :
    ∃ hidden reports after, inside = .inner hidden s ∧
      (standard.withDialect d).RunsAll steps s reports after ∧ s.depth ≤ after.depth ∧
      (standard.withDialect d).RunsAll [.block .parentView steps] inside
        [(.block s.depth reports, inside.depth)] (.inner hidden (after.cutTo s.depth)) ∧
      (standard.withDialect d).Runs (.block (.scope b) [.block .parentView steps]) s
        (.block inside.depth [(.block s.depth reports, inside.depth)]) (after.cutTo s.depth) := by
  obtain ⟨hidden, rfl, _⟩ := State.exists_frame_of_push hpush
  obtain ⟨depth, hends⟩ := Step.exists_isSome_runAll fun step _ => Step.exists_isSome_run d step
  obtain ⟨⟨reports, after⟩, hrun⟩ :=
    Option.isSome_iff_exists.1 (hends depth (Nat.le_refl depth) s)
  have hdepth : s.depth ≤ after.depth :=
    Step.le_depth_of_runAll (fun step _ => Step.staysAbove (keepsDepth_standard d depth) step)
      (Nat.le_refl _) (hpops depth) hrun
  have hcut : (after.cutTo s.depth).depth = s.depth := by
    rw [State.depth_cutTo after s.depth_pos]
    omega
  have hview : Step.runAll ((standard.withDialect d).compileAt depth) [.block .parentView steps]
      (.inner hidden s)
        = some ([(.block s.depth reports, s.depth + 1)], .inner hidden (after.cutTo s.depth)) := by
    have henter : Guard.parentView.enter (.inner hidden s) = .ok s := rfl
    rw [Step.runAll_cons, Step.run_block_of_ok henter, hrun]
    simp [Step.runAll, Guard.leave, State.depth, hcut]
  have hscope := runs_scope hpush hview
  rw [State.cutTo_inner hcut] at hscope
  exact ⟨hidden, reports, after, rfl, ⟨depth, hrun⟩, hdepth, ⟨depth, hview⟩, hscope⟩

/--
A script that writes to the caller, asks for a name that only the scope binds, removes a frame that
it has pushed, does so again under a view of its own, and leaves a frame behind.
-/
theorem view_acts_on_caller_flag :
    let c := standard.withDialect .generic
    let s := State.inner (.ofList [("flag", .text "off")]) .new
    let b := (Bindings.empty.copy "flag").bind "own" (.text "b")
    let steps : List Step :=
      [.operation (.set "flag" (.text "on")), .operation (.get "own"),
        .operation (.push .empty), .operation (.set "new" (.text "c")), .operation .pop,
        .block .parentView
          [.operation (.push .empty), .operation .pop, .operation (.bind (.bool true))],
        .operation (.push (Bindings.empty.bind "flag" (.text "left")))]
    ∃ inside, s.push b = .ok inside ∧
      (∀ depth, Step.PopsAboveAll (c.compileAt depth) s.depth steps s) ∧
      ∃ hidden reports after, inside = .inner hidden s ∧ c.RunsAll steps s reports after ∧
        c.Runs (.block (.scope b) [.block .parentView steps]) s
          (.block 3 [(.block 2 reports, 3)]) (after.cutTo 2) := by
  intro c s b steps
  have hpush : s.push b
      = .ok (.inner (.ofList [("flag", .text "off"), ("own", .text "b")]) s) := rfl
  have hpops : ∀ depth, Step.PopsAboveAll (c.compileAt depth) s.depth steps s := by
    intro depth
    simp only [steps, Step.popsAboveAll_operation_cons]
    refine ⟨nofun, nofun, nofun, nofun, fun _ => by decide, ?_⟩
    rw [Step.PopsAboveAll, Step.PopsAbove]
    constructor
    . intro inside henter
      cases henter
      simp only [Step.popsAboveAll_operation_cons]
      refine ⟨nofun, fun _ => ?_, nofun, ?_⟩
      . decide
      . trivial
    . intro report s' hrun
      rw [Step.popsAboveAll_operation_cons]
      exact ⟨nofun, trivial⟩
  refine ⟨_, hpush, hpops, ?_⟩
  obtain ⟨hidden, reports, after, hinside, hsteps, _, _, hruns⟩ :=
    view_acts_on_caller .generic hpush steps hpops
  exact ⟨hidden, reports, after, hinside, hsteps, hruns⟩

end Compiler

end SqlExpr
