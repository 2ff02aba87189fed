import SqlExpr.Proofs.Script
import SqlExpr.Proofs.State.Hidden

/-!
This module contains the proof that a scope isolates what it copies and binds
(`Compiler.scope_isolates`). Whatever runs in a scope, the state stays over the one that the scope
was opened in, and when the scope is closed nothing is left there but writes to names that the scope
shares with it.
-/

namespace SqlExpr

namespace State

variable {own : List String} {caller s : State}

theorem Over.of_push {b : Bindings} (h : caller.push b = .ok s) :
    Over (b.copies ++ b.values.map Prod.fst) caller s := by
  obtain ⟨frame, hframe, hown⟩ := exists_frame_of_push h
  refine ⟨[], frame, caller, hframe, ?_, .refl _ caller⟩
  intro name hmem
  exact hown name (List.mem_append.1 hmem)

theorem Over.addValues (h : Over own caller s) (vs : List Value) :
    Over own caller (s.addValues vs) := by
  unfold State.addValues
  split
  . exact h.set _ _
  . exact h

theorem Over.enter (h : Over own caller s) {guard : Guard} {inside : State}
    (henter : guard.enter s = .ok inside) (hdepth : caller.depth < inside.depth) :
    Over own caller inside := by
  cases guard with
  | scope b => exact h.push henter
  | parentView => exact h.pop henter hdepth

theorem Over.leave (h : Over own caller s) {guard : Guard} {inside after : State}
    (henter : guard.enter s = .ok inside) (hinside : Over own caller inside)
    (hafter : Over own caller after) : Over own caller (guard.leave s after) := by
  cases guard with
  | scope b => exact hafter.cutTo h.depth_lt
  | parentView =>
    cases s with
    | root frame => cases henter
    | inner hidden outer =>
      cases henter
      exact (hafter.cutTo hinside.depth_lt).inner hidden

end State

namespace Compiler

theorem keeps_over (d : Dialect) (depth : Nat) (own : List String) (caller : State) :
    Step.Keeps ((standard.withDialect d).compileAt depth) (caller.depth < ·.depth)
      (State.Over own caller) where
  operation op s hs hdepth := hs.effect (op.effect_apply s) hdepth
  compilation node p s result s' hs hcompile := by
    cases eq_of_compileAt_standard hcompile
    exact hs.addValues _
  enter guard s inside hs henter hdepth := hs.enter henter hdepth
  leave guard s inside after hs henter hinside hafter := hs.leave henter hinside hafter

/--
A script that runs in a scope, and neither removes nor hides the frame of the scope, leaves the
frames below as they were, but for the innermost bindings of names that the scope neither copies nor
binds. This is so wherever the script stops, because a part of it is a script as well.
-/
theorem scope_isolates (d : Dialect) {s inside : State} {b : Bindings}
    (hpush : s.push b = .ok inside) (steps : List Step)
    (hkeeps : ∀ t, (standard.withDialect d).Passes steps inside t → s.depth < t.depth) :
    ∃ reports s',
      (standard.withDialect d).Runs (.block (.scope b) steps) s (.block inside.depth reports) s' ∧
      s'.frames.map NameMap.names = s.frames.map NameMap.names ∧
      ∀ name, (s'.getAll name).tail = (s.getAll name).tail ∧
        (name ∈ b.copies ∨ name ∈ b.values.map Prod.fst →
          s'.getAllOr name none = s.getAllOr name none) := by
  obtain ⟨depth, hends⟩ := Step.exists_isSome_runAll fun step _ => Step.exists_isSome_run d step
  obtain ⟨⟨reports, after⟩, hrun⟩ :=
    Option.isSome_iff_exists.1 (hends depth (Nat.le_refl depth) inside)
  have hpasses := fun t ht => hkeeps t ⟨depth, ht⟩
  have hafter := (keeps_over d depth _ s).runAll (.of_push hpush) hpasses hrun
  obtain ⟨_, _, _, hkept⟩ := hafter.exists_cutTo
  refine ⟨reports, after.cutTo s.depth, runs_scope hpush hrun, hkept.map_names, ?_⟩
  intro name
  refine ⟨hkept.tail_getAll name, ?_⟩
  intro hmem
  exact hkept.getAllOr (List.mem_append.2 hmem) none

/--
A scope that copies one name and shares another one. The script writes to both, binds a value, sets
a new name under a view of the parent frames, and removes all frames that it has pushed.
-/
theorem scope_isolates_flag :
    let c := standard.withDialect .generic
    let s := State.inner (.ofList [("flag", .text "off"), ("note", .text "a")]) .new
    let b := Bindings.empty.copy "flag"
    let steps : List Step :=
      [.operation (.set "flag" (.text "on")), .operation (.set "note" (.text "b")),
        .compile (.ok (.scalar (.bool true))) .clause, .operation (.push .empty),
        .block .parentView [.operation (.set "new" (.text "c")), .operation (.get "missing")],
        .block (.scope .empty) [.operation .pop, .operation .pop]]
    ∃ inside, s.push b = .ok inside ∧ (∀ t, c.Passes steps inside t → s.depth < t.depth) ∧
      ∃ reports s', c.Runs (.block (.scope b) steps) s (.block inside.depth reports) s' ∧
        s'.frames.map NameMap.names = [["flag", "note"], ["precedence", "parameters"]] ∧
        s'.getAllOr "flag" none = [some (.text "off"), none] := by
  intro c s b steps
  have hpush : s.push b = .ok (.inner (.ofList [("flag", .text "off")]) s) := rfl
  refine ⟨_, hpush, ?_⟩
  have hkeeps : ∀ t, c.Passes steps (.inner (.ofList [("flag", .text "off")]) s) t →
      s.depth < t.depth := by
    intro t ⟨depth, ht⟩
    have hall : (Step.statesAll (c.compileAt depth) steps
        (.inner (.ofList [("flag", .text "off")]) s)).all fun t => s.depth < t.depth := by
      simp only [c, s, steps]
      cases depth <;> rfl
    simpa using List.all_eq_true.1 hall t ht
  refine ⟨hkeeps, ?_⟩
  obtain ⟨reports, s', hruns, hnames, hvalues⟩ := scope_isolates .generic hpush steps hkeeps
  exact ⟨reports, s', hruns, hnames, (hvalues "flag").2 (.inl (List.mem_singleton.2 rfl))⟩

end Compiler

end SqlExpr
