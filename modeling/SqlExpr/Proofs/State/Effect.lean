import SqlExpr.Proofs.State.Edit

/-!
This module contains what one operation can do to a state: nothing, a write to one name, a new
frame, or the removal of the innermost one (`Operation.effect_apply`). What holds after all of these
holds after every operation.
-/

namespace SqlExpr

namespace Operation

/--
The name that an operation writes to.
-/
def target? : Operation → Option String
  | .set name _ | .replace name _ | .append name _ => some name
  | .bind _ => some Attribute.parametersName
  | _ => none

/--
The states that an operation may leave.
-/
inductive Effect (op : Operation) (s : State) : State → Prop where
  | none : Effect op s s
  | write (name : String) (a : Attribute) (h : op.target? = some name) : Effect op s (s.set name a)
  | push (b : Bindings) {s' : State} (h : op = .push b) (hpush : s.push b = .ok s') : Effect op s s'
  | pop {s' : State} (h : op = .pop) (hpop : s.pop = .ok s') : Effect op s s'

theorem effect_apply (op : Operation) (s : State) : op.Effect s (op.apply s).2 := by
  rw [apply_eq]
  split
  . next answer s' hrun =>
    cases op with
    | get | getAs | precedence | parameters =>
      simp only [result] at hrun
      split at hrun <;> cases hrun
      exact .none
    | getAll | getAllOr | compact | depth =>
      cases hrun
      exact .none
    | set name a =>
      cases hrun
      exact .write name a rfl
    | replace name a =>
      simp only [result] at hrun
      split at hrun <;> cases hrun
      exact .write name a rfl
    | append name v =>
      simp only [result] at hrun
      split at hrun <;> cases hrun
      . exact .write name _ rfl
      . exact .none
    | push b =>
      simp only [result] at hrun
      split at hrun <;> cases hrun
      next hpush => exact .push b rfl hpush
    | pop =>
      simp only [result] at hrun
      split at hrun <;> cases hrun
      next hpop => exact .pop rfl hpop
    | bind v =>
      simp only [result, State.bind] at hrun
      split at hrun <;> cases hrun
      next hbind =>
      split at hbind <;> cases hbind
      exact .write Attribute.parametersName _ rfl
  . exact .none

end Operation

end SqlExpr
