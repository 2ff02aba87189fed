import SqlExpr.Proofs.State.Write

/-!
This module contains the one effect that compiling a built-in expression has on a state: values are
added at the end of the list under `parameters` (`addValues`). The list is found wherever the
nearest frame holds it, so the effect is the same under more frames (`addValues_inner`), and adding
twice is adding once (`addValues_addValues`).
-/

namespace SqlExpr.State

/--
Add values at the end of the parameters. A state without a list of parameters stays as it is.
-/
def addValues (s : State) (vs : List Value) : State :=
  match s.parameters with
  | .ok us => s.set Attribute.parametersName (.values (us ++ vs))
  | .error _ => s

variable {s : State} {us : List Value}

theorem parameters_eq_ok_iff :
    s.parameters = .ok us ↔ s.get? Attribute.parametersName = some (.values us) := by
  unfold parameters get
  cases h : s.get? Attribute.parametersName with
  | none => simp
  | some a => cases a <;> simp

theorem addValues_eq_set (h : s.parameters = .ok us) (vs : List Value) :
    s.addValues vs = s.set Attribute.parametersName (.values (us ++ vs)) := by
  simp only [addValues, h]

theorem addValues_of_error {e : Error} (h : s.parameters = .error e) (vs : List Value) :
    s.addValues vs = s := by
  simp only [addValues, h]

@[simp]
theorem addValues_nil (s : State) : s.addValues [] = s := by
  unfold addValues
  split
  . next us h =>
    rw [List.append_nil]
    apply set_of_get?
    rw [← parameters_eq_ok_iff, h]
  . rfl

theorem get?_addValues_of_ne {name : String} (hname : name ≠ Attribute.parametersName)
    (vs : List Value) : (s.addValues vs).get? name = s.get? name := by
  unfold addValues
  split
  . rw [get?_set, if_neg hname]
  . rfl

theorem parameters_addValues (h : s.parameters = .ok us) (vs : List Value) :
    (s.addValues vs).parameters = .ok (us ++ vs) := by
  rw [parameters_eq_ok_iff, addValues_eq_set h, get?_set, if_pos rfl]

@[simp]
theorem precedence_addValues (s : State) (vs : List Value) :
    (s.addValues vs).precedence = s.precedence := by
  unfold precedence get
  rw [get?_addValues_of_ne (by decide)]

@[simp]
theorem depth_addValues (s : State) (vs : List Value) : (s.addValues vs).depth = s.depth := by
  unfold addValues
  split
  . apply depth_set
  . rfl

theorem addValues_addValues (h : s.parameters = .ok us) (vs ws : List Value) :
    (s.addValues vs).addValues ws = s.addValues (vs ++ ws) := by
  have hbound : (s.get? Attribute.parametersName).isSome := by
    simp [parameters_eq_ok_iff.1 h]
  rw [addValues_eq_set (parameters_addValues h vs), addValues_eq_set h, addValues_eq_set h]
  rw [set_set hbound, List.append_assoc]

theorem bind_eq_addValues (h : s.parameters = .ok us) (v : Value) :
    s.bind v = .ok (s.addValues [v]) := by
  simp only [bind, addValues, h]

theorem get?_inner {frame : Frame} {name : String} (h : frame.get? name = none) (outer : State) :
    (inner frame outer).get? name = outer.get? name := by
  simp [get?, h]

theorem parameters_inner {frame : Frame} (h : frame.get? Attribute.parametersName = none)
    (outer : State) : (inner frame outer).parameters = outer.parameters := by
  unfold parameters get
  rw [get?_inner h]

theorem addValues_inner {frame : Frame} (hframe : frame.get? Attribute.parametersName = none)
    (s : State) (vs : List Value) :
    (inner frame s).addValues vs = inner frame (s.addValues vs) := by
  have hinner := parameters_inner hframe s
  cases h : s.parameters with
  | error e =>
    rw [h] at hinner
    rw [addValues_of_error hinner, addValues_of_error h]
  | ok us =>
    rw [h] at hinner
    rw [addValues_eq_set hinner, addValues_eq_set h]
    apply set_inner_of_shared hframe
    simp [parameters_eq_ok_iff.1 h]

end SqlExpr.State
