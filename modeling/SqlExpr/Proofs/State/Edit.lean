import Mathlib.Data.List.Nodup
import SqlExpr.Proofs.State.Write
import SqlExpr.State.Guard
import SqlExpr.State.Operation

/-!
This module contains what edits make of a `State`, said with the functions that give a new state or
an error. It follows what an operation answers and leaves (`Operation.apply_eq`).
-/

namespace SqlExpr

theorem Entries.insert_of_not_mem {α : Type} {name : String} {entries : List (String × α)}
    (h : name ∉ entries.map Prod.fst) (value : α) :
    insert name value entries = entries ++ [(name, value)] := by
  induction entries with
  | nil => rfl
  | cons entry rest ih =>
    rw [List.map_cons, List.mem_cons, not_or] at h
    rw [insert, if_neg (Ne.symm h.1), ih h.2, List.cons_append]

namespace NameMap

variable {α : Type}

theorem entries_insertAll (map : NameMap α) {bindings : List (String × α)}
    (h : ((map.entries ++ bindings).map Prod.fst).Nodup) :
    (map.insertAll bindings).entries = map.entries ++ bindings := by
  induction bindings generalizing map with
  | nil => rw [insertAll_nil, List.append_nil]
  | cons binding rest ih =>
    have hinsert : (map.insert binding.1 binding.2).entries = map.entries ++ [binding] := by
      apply Entries.insert_of_not_mem
      rw [List.map_append, List.map_cons, List.nodup_middle, List.nodup_cons] at h
      exact fun hmem => h.1 (List.mem_append_left _ hmem)
    rw [insertAll_cons, ih, hinsert, List.append_assoc, List.singleton_append]
    rw [hinsert, List.append_assoc, List.singleton_append]
    exact h

theorem insertAll_entries (map : NameMap α) : empty.insertAll map.entries = map := by
  have h : (empty.insertAll map.entries).entries = map.entries :=
    entries_insertAll empty map.nodup
  generalize empty.insertAll map.entries = rebuilt at h
  cases rebuilt
  cases h
  rfl

end NameMap

namespace State

theorem merge_frames (s : State) : merge s.frames = s.compact := by
  induction s with
  | root frame => exact NameMap.insertAll_entries frame
  | inner frame outer ih => rw [frames_inner, merge, ih, compact]

theorem locate_frames (s : State) (name : String) :
    locate name s.frames = (s.get? name).map fun a => (s.cell name, a) := by
  induction s with
  | root frame =>
    rw [frames_root, locate, locate, get?, cell_root]
    cases frame.get? name <;> rfl
  | inner frame outer ih =>
    rw [frames_inner, locate, get?, cell_inner, ih]
    cases frame.get? name with
    | some a => simp
    | none => cases outer.get? name <;> simp

theorem modify_cell (s : State) (name : String) (a : Attribute) :
    s.modify (s.cell name) (·.insert name a) = s.set name a := by
  rw [← frames_inj, frames_modify, frames_set_eq_modify]

theorem cell_of_unbound {s : State} {name : String} (h : s.get? name = none) :
    s.cell name = 0 := by
  have hframes : s.frames.findIdx? (fun frame => (frame.get? name).isSome) = none := by
    rw [← Option.not_isSome_iff_eq_none, List.findIdx?_isSome, ← isSome_get?, h]
    exact Bool.false_ne_true
  rw [cell, hframes, Option.getD_none]

end State

namespace Edit

variable {s : State} {α β : Type}

/--
What an edit ends with that computes a new state or fails and leaves the state as it was.
-/
def ended (s : State) : Except Error (α × State) → EStateM.Result Error State α
  | .ok (a, s') => .ok a s'
  | .error e => .error e s

theorem frames_eq (s : State) : (frames : Edit State _) s = .ok s.frames s := rfl

theorem depth_eq (s : State) : (depth : Edit State _) s = .ok s.depth s := by
  rw [← State.length_frames]
  rfl

theorem cell_eq (name : String) (s : State) :
    (cell name : Edit State _) s = ended s ((s.get name).map fun a => ((s.cell name, a), s)) := by
  simp only [cell, Bind.bind, EStateM.bind, frames_eq, State.locate_frames, State.get]
  cases s.get? name <;> rfl

theorem find_eq (name : String) (s : State) :
    (find name : Edit State _) s = ended s ((s.get name).map fun a => (a, s)) := by
  simp only [find, Bind.bind, EStateM.bind, cell_eq]
  cases s.get name <;> rfl

theorem write_cell (name : String) (a : Attribute) (s : State) :
    (write (s.cell name) name a : Edit State _) s = .ok () (s.set name a) := by
  rw [← State.modify_cell]
  rfl

theorem assign_eq (name : String) (a : Attribute) (s : State) :
    (assign name a : Edit State _) s = .ok () (s.set name a) := by
  simp only [assign, Bind.bind, EStateM.bind, frames_eq, State.locate_frames]
  cases h : s.get? name with
  | some old => exact write_cell name a s
  | none =>
    rw [← write_cell, State.cell_of_unbound h]
    rfl

theorem foldlM_copyTo_eq (frame : Frame) (names : List String) (s : State) :
    (names.foldlM copyTo frame : Edit State _) s
      =
    ended s ((s.copyInto frame names).map fun copied => (copied, s)) := by
  induction names generalizing frame with
  | nil => rfl
  | cons name names ih =>
    simp only [List.foldlM_cons, copyTo, Bind.bind, EStateM.bind, find_eq, State.copyInto]
    cases s.get name with
    | ok a => exact ih _
    | error e => rfl

theorem push_eq (b : Bindings) (s : State) :
    (push b : Edit State _) s = ended s ((s.push b).map fun inside => ((), inside)) := by
  simp only [push, Bind.bind, EStateM.bind, foldlM_copyTo_eq, State.push]
  cases s.copyInto .empty b.copies <;> rfl

theorem pop_eq (s : State) :
    (pop : Edit State _) s = ended s (s.pop.map fun outer => ((), outer)) := by
  simp only [pop, Bind.bind, EStateM.bind, depth_eq]
  cases s with
  | root frame => rfl
  | inner frame outer =>
    rw [if_neg (by have := outer.depth_pos; simp only [State.depth]; omega)]
    rfl

theorem precedence_eq (s : State) :
    (precedence : Edit State _) s = ended s (s.precedence.map fun p => (p, s)) := by
  simp only [precedence, Bind.bind, EStateM.bind, find_eq, State.precedence]
  cases s.get Attribute.precedenceName with
  | ok a => cases a <;> rfl
  | error e => rfl

theorem parameters_eq (s : State) :
    (parameters : Edit State _) s = ended s (s.parameters.map fun vs => (vs, s)) := by
  simp only [parameters, Bind.bind, EStateM.bind, find_eq, State.parameters]
  cases s.get Attribute.parametersName with
  | ok a => cases a <;> rfl
  | error e => rfl

theorem bindValue_eq (v : Value) (s : State) :
    (bindValue v : Edit State _) s = ended s ((s.bind v).map fun after => ((), after)) := by
  simp only [bindValue, Bind.bind, EStateM.bind, cell_eq, State.bind, State.parameters]
  cases s.get Attribute.parametersName with
  | ok a =>
    cases a with
    | values vs => exact write_cell _ _ s
    | precedence | value | text => rfl
  | error e => rfl

end Edit

namespace Operation

/--
What an operation answers in a state and the new state, or an error.
-/
def result (s : State) : Operation → Except Error (Answer × State)
  | .get name =>
    match s.get name with
    | .ok a => .ok (.attribute a, s)
    | .error e => .error e
  | .getAs name shape =>
    match s.get name with
    | .ok a => .ok (.shaped (if a.shape = shape then some a else none), s)
    | .error e => .error e
  | .set name a => .ok (.done, s.set name a)
  | .replace name a =>
    match s.get name with
    | .ok old => .ok (.attribute old, s.set name a)
    | .error e => .error e
  | .append name v =>
    match s.get name with
    | .ok (.values vs) => .ok (.count (vs.length + 1), s.set name (.values (vs ++ [v])))
    | .ok _ => .ok (.notAList, s)
    | .error e => .error e
  | .getAll name => .ok (.attributes (s.getAll name), s)
  | .getAllOr name default? => .ok (.perFrame (s.getAllOr name default?), s)
  | .compact => .ok (.bindings s.compact, s)
  | .push b =>
    match s.push b with
    | .ok s' => .ok (.done, s')
    | .error e => .error e
  | .pop =>
    match s.pop with
    | .ok s' => .ok (.done, s')
    | .error e => .error e
  | .depth => .ok (.count s.depth, s)
  | .precedence =>
    match s.precedence with
    | .ok p => .ok (.precedence p, s)
    | .error e => .error e
  | .parameters =>
    match s.parameters with
    | .ok vs => .ok (.values vs, s)
    | .error e => .error e
  | .bind v =>
    match s.bind v with
    | .ok s' => .ok (.done, s')
    | .error e => .error e

open Edit

theorem run_eq (op : Operation) (s : State) : (op.run : Edit State _) s = ended s (op.result s) := by
  cases op with
  | get name | getAs name shape =>
    simp only [run, Bind.bind, EStateM.bind, find_eq, result]
    cases s.get name <;> rfl
  | set name a =>
    simp only [run, Bind.bind, EStateM.bind, assign_eq, result]
    rfl
  | replace name a =>
    simp only [run, Bind.bind, EStateM.bind, cell_eq, result]
    cases s.get name with
    | ok old =>
      simp only [Except.map, ended, write_cell]
      rfl
    | error e => rfl
  | append name v =>
    simp only [run, Bind.bind, EStateM.bind, cell_eq, result]
    cases s.get name with
    | ok old =>
      cases old with
      | values vs =>
        simp only [Except.map, ended, EStateM.bind, write_cell]
        rfl
      | precedence | value | text => rfl
    | error e => rfl
  | getAll | getAllOr => rfl
  | compact =>
    simp only [run, Bind.bind, EStateM.bind, frames_eq, State.merge_frames, result]
    rfl
  | push b =>
    simp only [run, Bind.bind, EStateM.bind, push_eq, result]
    cases s.push b <;> rfl
  | pop =>
    simp only [run, Bind.bind, EStateM.bind, pop_eq, result]
    cases s.pop <;> rfl
  | depth =>
    simp only [run, Bind.bind, EStateM.bind, depth_eq, result]
    rfl
  | precedence =>
    simp only [run, Bind.bind, EStateM.bind, precedence_eq, result]
    cases s.precedence <;> rfl
  | parameters =>
    simp only [run, Bind.bind, EStateM.bind, parameters_eq, result]
    cases s.parameters <;> rfl
  | bind v =>
    simp only [run, Bind.bind, EStateM.bind, bindValue_eq, result]
    cases s.bind v <;> rfl

theorem apply_eq (op : Operation) (s : State) :
    op.apply s
      =
    match op.result s with
    | .ok (answer, s') => (.ok answer, s')
    | .error e => (.error e, s) := by
  rw [apply, run_eq]
  cases op.result s <;> rfl

end Operation

end SqlExpr
