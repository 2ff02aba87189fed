import SqlExpr.Proofs.Script
import SqlExpr.Proofs.State.Atomic

/-!
This module contains the proof that a failed operation on a state never happened
(`Step.failures_leave_no_trace`). Of a script that compiles nothing, all steps can be deleted that
its run reports to have failed, also those inside blocks, and what is left runs with the same reports
to the same state.
-/

namespace SqlExpr

namespace Report

def isFailure : Report → Bool
  | .failed _ => true
  | .answered answer => answer.isFailure
  | _ => false

mutual

/--
A report without the reports on those members of a block that failed.
-/
def withoutFailures : Report → Report
  | .block depth reports => .block depth (withoutFailuresAll reports)
  | report => report

def withoutFailuresAll : List (Report × Nat) → List (Report × Nat)
  | [] => []
  | (report, depth) :: reports =>
    if report.isFailure then
      withoutFailuresAll reports
    else
      (report.withoutFailures, depth) :: withoutFailuresAll reports

end

mutual

/--
Whether neither a step failed nor, if it is a block, any step inside it at any depth.
-/
def succeeds : Report → Bool
  | .block _ reports => succeedsAll reports
  | report => !report.isFailure

def succeedsAll : List (Report × Nat) → Bool
  | [] => true
  | (report, _) :: reports => report.succeeds && succeedsAll reports

end

mutual

theorem succeeds_withoutFailures {report : Report} (h : report.isFailure = false) :
    report.withoutFailures.succeeds := by
  cases report with
  | failed e => cases h
  | answered answer =>
    unfold withoutFailures succeeds
    rw [h]
    rfl
  | compiled text => rfl
  | block depth reports =>
    unfold withoutFailures succeeds
    exact succeedsAll_withoutFailuresAll reports

theorem succeedsAll_withoutFailuresAll (reports : List (Report × Nat)) :
    succeedsAll (withoutFailuresAll reports) := by
  cases reports with
  | nil => rfl
  | cons first reports =>
    obtain ⟨report, depth⟩ := first
    unfold withoutFailuresAll
    split
    . exact succeedsAll_withoutFailuresAll reports
    . next hfailure =>
      unfold succeedsAll
      rw [Bool.and_eq_true]
      exact ⟨succeeds_withoutFailures (Bool.eq_false_iff.2 hfailure),
        succeedsAll_withoutFailuresAll reports⟩

end

end Report

/--
An operation that is reported to have failed leaves the state as it was.
-/
theorem Operation.apply_eq_of_reported {op : Operation} {s : State}
    (h : (Report.ofResult .answered (op.apply s).1).isFailure) : (op.apply s).2 = s := by
  cases hresult : (op.apply s).1 with
  | ok answer =>
    rw [hresult] at h
    exact apply_eq_of_isFailure hresult h
  | error e => exact apply_eq_of_error hresult

namespace Step

mutual

/--
A step without the members of a block that are reported to have failed.
-/
def without : Step → Report → Step
  | .block guard steps, .block _ reports => .block guard (withoutAll steps reports)
  | step, _ => step

/--
The steps that are not reported to have failed.
-/
def withoutAll : List Step → List (Report × Nat) → List Step
  | step :: steps, (report, _) :: reports =>
    if report.isFailure then
      withoutAll steps reports
    else
      step.without report :: withoutAll steps reports
  | _, _ => []

end

variable {compile : CompileFn} {step : Step} {steps : List Step}

/--
Whether a step ends in every state with a report, and either it failed and the state is still the
same, or without the failures inside it, the step ends in the same state.
-/
def Accounts (compile : CompileFn) (step : Step) : Prop :=
  ∀ s, ∃ report s', run compile step s = some (report, s') ∧
    if report.isFailure then s' = s
    else run compile (step.without report) s = some (report.withoutFailures, s')

theorem run_block_of_begin_error {guard : Guard} {s s' : State} {e : Error}
    (h : guard.begin s = .error e s') (steps : List Step) :
    run compile (.block guard steps) s = some (.failed e, s') := by
  unfold run
  simp only [Guard.run, h]

theorem run_block_of_begin_ok {guard : Guard} {s inside : State} {opened : OpenGuard}
    (h : guard.begin s = .ok opened inside) (steps : List Step) :
    run compile (.block guard steps) s
      =
    (runAll compile steps inside).map fun r => (.block inside.depth r.1, opened.close r.2) := by
  unfold run
  simp only [Guard.run, h]
  cases runAll compile steps inside <;> rfl

theorem exists_runAll_withoutAll (h : ∀ step ∈ steps, step.Accounts compile) (s : State) :
    ∃ reports s', runAll compile steps s = some (reports, s') ∧
      runAll compile (withoutAll steps reports) s
        = some (Report.withoutFailuresAll reports, s') := by
  induction steps generalizing s with
  | nil => exact ⟨[], s, rfl, rfl⟩
  | cons step steps ih =>
    rw [List.forall_mem_cons] at h
    obtain ⟨report, between, hstep, hreport⟩ := h.1 s
    obtain ⟨reports, s', hsteps, hwithout⟩ := ih h.2 between
    refine ⟨(report, between.depth) :: reports, s', ?_, ?_⟩
    . rw [runAll_cons, hstep, Option.bind_some, hsteps, Option.map_some]
    . unfold withoutAll Report.withoutFailuresAll
      split at hreport
      . next hfailure =>
        rw [if_pos hfailure, if_pos hfailure, ← hreport]
        exact hwithout
      . next hfailure =>
        rw [if_neg hfailure, if_neg hfailure, runAll_cons, hreport, Option.bind_some, hwithout,
          Option.map_some]

theorem accounts (step : Step) (h : ∀ node demand, .compile node demand ∉ parts step) :
    step.Accounts compile := by
  induction step with
  | operation op =>
    intro s
    refine ⟨_, _, run_operation op s, ?_⟩
    split
    . next hfailure => exact Operation.apply_eq_of_reported hfailure
    . have hreport : (Report.ofResult .answered (op.apply s).1).withoutFailures
          = Report.ofResult .answered (op.apply s).1 := by
        cases (op.apply s).1 <;> rfl
      rw [hreport]
      exact run_operation op s
  | compile node demand => exact absurd List.mem_cons_self (h node demand)
  | block guard steps ih =>
    intro s
    cases hbegin : guard.begin s with
    | error e s' =>
      refine ⟨_, s', run_block_of_begin_error hbegin steps, ?_⟩
      exact Guard.begin_eq_of_error hbegin
    | ok opened inside =>
      have hsteps : ∀ step ∈ steps, step.Accounts compile := by
        intro step hstep
        apply ih step hstep
        intro node demand hmem
        apply h node demand
        unfold parts
        exact List.mem_cons_of_mem _ (mem_partsAll hstep hmem)
      obtain ⟨reports, after, hrun, hwithout⟩ := exists_runAll_withoutAll hsteps inside
      refine ⟨.block inside.depth reports, opened.close after, ?_, ?_⟩
      . rw [run_block_of_begin_ok hbegin, hrun, Option.map_some]
      . have hsuccess : ¬ (Report.block inside.depth reports).isFailure := Bool.false_ne_true
        rw [if_neg hsuccess, without, run_block_of_begin_ok hbegin, hwithout, Option.map_some,
          Report.withoutFailures]

/--
The steps of a script that compiles nothing all end. Without those that fail, the others give the
same answers, and the state that is left is the same. Nothing fails any more.
-/
theorem failures_leave_no_trace (h : ∀ node demand, .compile node demand ∉ partsAll steps)
    (compile : CompileFn) (s : State) :
    ∃ reports s', runAll compile steps s = some (reports, s') ∧
      runAll compile (withoutAll steps reports) s
        = some (Report.withoutFailuresAll reports, s') ∧
      Report.succeedsAll (Report.withoutFailuresAll reports) := by
  have hsteps : ∀ step ∈ steps, step.Accounts compile := by
    intro step hstep
    apply accounts
    intro node demand hmem
    exact h node demand (mem_partsAll hstep hmem)
  obtain ⟨reports, s', hrun, hwithout⟩ := exists_runAll_withoutAll hsteps s
  exact ⟨reports, s', hrun, hwithout, Report.succeedsAll_withoutFailuresAll reports⟩

/--
Failures of most kinds, at the root and inside blocks. The copy of one name is made before that of
another one fails.
-/
theorem failures_leave_no_trace_copies :
    let compile : CompileFn := fun _ _ _ => none
    let copies := (Bindings.empty.copy "flag").copy "missing"
    let steps : List Step :=
      [.operation .pop, .operation (.get "missing"), .operation (.set "flag" (.text "on")),
        .operation (.getAs "flag" .values), .operation (.append "flag" .null),
        .block (.scope copies) [.operation (.set "flag" (.text "off"))], .block .parentView [],
        .block (.scope .empty) [.operation (.push copies), .operation (.get "flag"),
          .block .parentView [.operation .pop, .operation (.replace "flag" (.text "off"))]]]
    let remaining : List Step :=
      [.operation (.set "flag" (.text "on")), .block (.scope .empty) [.operation (.get "flag"),
        .block .parentView [.operation (.replace "flag" (.text "off"))]]]
    (∀ node demand, .compile node demand ∉ partsAll steps) ∧
      ∃ reports s', runAll compile steps .new = some (reports, s') ∧
        withoutAll steps reports = remaining ∧
        runAll compile remaining .new = some (Report.withoutFailuresAll reports, s') := by
  intro compile copies steps remaining
  have hcompile : ∀ node demand, .compile node demand ∉ partsAll steps := by
    intro node demand h
    simp [steps, partsAll, parts] at h
  refine ⟨hcompile, ?_⟩
  obtain ⟨reports, s', hrun, hwithout, _⟩ := failures_leave_no_trace hcompile compile .new
  have hremaining : withoutAll steps reports = remaining := by
    cases hrun
    rfl
  exact ⟨reports, s', hrun, hremaining, hremaining ▸ hwithout⟩

end Step

end SqlExpr
