import SqlExpr.Proofs.State.Edit

/-!
This module takes guards on a `State` apart: a guard is entered, which may fail, and it is left,
which never does (`Guard.run_of_ok`). What it writes down when it is opened is enough to leave it, and
makes it cut the stack at a frame above the root (`Guard.begin_of_ok`).
-/

namespace SqlExpr

namespace Guard

/--
The state that the body under a guard starts in.
-/
def enter (guard : Guard) (s : State) : Except Error State :=
  match guard with
  | .scope b => s.push b
  | .parentView => s.pop

/--
The state that is left of `after` when a guard is closed that was entered in `s`.
-/
def leave (guard : Guard) (s after : State) : State :=
  match guard, s with
  | .scope _, s => after.cutTo s.depth
  | .parentView, .root _ => after
  | .parentView, .inner hidden outer => .inner hidden (after.cutTo outer.depth)

variable {α : Type} {guard : Guard} {s inside : State}

theorem begin_of_error {e : Error} (h : guard.enter s = .error e) :
    guard.begin s = .error e s := by
  cases guard with
  | scope b =>
    have hpush : s.push b = .error e := h
    simp only [begin, Bind.bind, EStateM.bind, Edit.push_eq, hpush]
    rfl
  | parentView =>
    have hpop : s.pop = .error e := h
    simp only [begin, Bind.bind, EStateM.bind, Edit.frames_eq, Edit.pop_eq, hpop]
    rfl

theorem begin_of_ok (h : guard.enter s = .ok inside) :
    ∃ opened, guard.begin s = .ok opened inside ∧ 0 < opened.base ∧
      ∀ after, opened.close after = guard.leave s after := by
  cases guard with
  | scope b =>
    have hpush : s.push b = .ok inside := h
    have hdepth : inside.depth - 1 = s.depth := by
      unfold State.push at hpush
      split at hpush <;> cases hpush
      rfl
    refine ⟨.scope inside.depth, ?_, ?_, ?_⟩
    . simp only [begin, Bind.bind, EStateM.bind, Edit.push_eq, hpush, Except.map, Edit.ended,
        Edit.depth_eq]
      rfl
    . rw [OpenGuard.base, hdepth]
      exact s.depth_pos
    . intro after
      rw [leave, ← hdepth]
      rfl
  | parentView =>
    cases s with
    | root frame => cases h
    | inner hidden outer =>
      cases h
      refine ⟨.parentView (some hidden) inside.depth, ?_, inside.depth_pos, fun _ => rfl⟩
      simp only [begin, Bind.bind, EStateM.bind, Edit.frames_eq, Edit.pop_eq, State.pop, Except.map,
        Edit.ended, Edit.depth_eq]
      rfl

theorem run_of_error {e : Error} (h : guard.enter s = .error e)
    (body : State → Option (Except Error α × State)) :
    guard.run s body = some (.error e, s) := by
  rw [run, begin_of_error h]

theorem run_of_ok (h : guard.enter s = .ok inside)
    (body : State → Option (Except Error α × State)) :
    guard.run s body = (body inside).map fun r => (r.1, guard.leave s r.2) := by
  obtain ⟨opened, hbegin, _, hclose⟩ := begin_of_ok h
  simp only [run, hbegin]
  cases body inside with
  | none => rfl
  | some r => simp only [Option.map_some, hclose]

end Guard

namespace State

variable {α : Type}

/--
A scope pushes a frame, and cuts the stack back to the frames that were there before.
-/
theorem scope_eq (s : State) (b : Bindings) (body : State → Option (Except Error α × State)) :
    s.scope b body
      =
    match s.push b with
    | .error e => some (.error e, s)
    | .ok inside =>
      match body inside with
      | none => none
      | some (result, after) => some (result, after.cutTo s.depth) := by
  unfold scope
  split
  . next e hpush =>
    have henter : (Guard.scope b).enter s = .error e := hpush
    exact Guard.run_of_error henter body
  . next inside hpush =>
    have henter : (Guard.scope b).enter s = .ok inside := hpush
    rw [Guard.run_of_ok henter]
    cases body inside <;> rfl

/--
A view hides the innermost frame, cuts the stack back to the frames below it and puts it on top of
them again.
-/
theorem parentView_eq (s : State) (body : State → Option (Except Error α × State)) :
    s.parentView body
      =
    match s with
    | .root frame => some (.error .rootScope, .root frame)
    | .inner hidden outer =>
      match body outer with
      | none => none
      | some (result, after) => some (result, .inner hidden (after.cutTo outer.depth)) := by
  unfold parentView
  cases s with
  | root frame =>
    have henter : Guard.parentView.enter (.root frame) = .error .rootScope := rfl
    exact Guard.run_of_error henter body
  | inner hidden outer =>
    have henter : Guard.parentView.enter (.inner hidden outer) = .ok outer := rfl
    rw [Guard.run_of_ok henter]
    dsimp only
    cases body outer <;> rfl

end State

end SqlExpr
