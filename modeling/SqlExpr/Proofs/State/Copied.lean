import SqlExpr.Proofs.State.Compact
import SqlExpr.Proofs.State.Hidden
import SqlExpr.Proofs.State.Parameters

/-!
This module contains what a copy in a frame is, compared with a binding that the frame shares
(`State.Copied`): the value is the same, but it is bound further out. Operations that do not look at
single frames answer alike with both, and keep both alike (`State.Copied.apply`), as long as the
frame stays.
-/

namespace SqlExpr

/--
Whether an operation tells the bindings of one name in different frames apart.
-/
def Operation.looksAtFrames : Operation → Bool
  | .getAll _ | .getAllOr _ _ => true
  | _ => false

namespace State

theorem set_comm {s : State} {name other : String} (h : (s.get? name).isSome)
    (h' : (s.get? other).isSome) (hne : other ≠ name) (a b : Attribute) :
    (s.set name a).set other b = (s.set other b).set name a := by
  induction s with
  | root frame =>
    have hframe : (frame.get? name).isSome := h
    rw [set_root, set_root, set_root, set_root, NameMap.insert_comm hframe hne]
  | inner frame outer ih =>
    -- Each write ends in the innermost frame or goes past it, whether or not the other one is done.
    rw [get?, Option.isSome_or, Bool.or_eq_true] at h h'
    cases hframe : frame.get? name with
    | some old =>
      have hbound : (frame.get? name).isSome := by simp [hframe]
      have hcomm := NameMap.insert_comm hbound hne a b
      cases hframe' : frame.get? other with
      | some old' => simp [set_inner, hframe, hframe', NameMap.get?_insert, hcomm, hne, hne.symm]
      | none =>
        have houter' : (outer.get? other).isSome := by simpa [hframe'] using h'
        simp [set_inner, hframe, hframe', houter', NameMap.get?_insert, hne]
    | none =>
      have houter : (outer.get? name).isSome := by simpa [hframe] using h
      cases hframe' : frame.get? other with
      | some old' => simp [set_inner, hframe, hframe', houter, NameMap.get?_insert, hne.symm]
      | none =>
        have houter' : (outer.get? other).isSome := by simpa [hframe'] using h'
        have hcomm := ih houter houter'
        simp [set_inner, hframe, hframe', houter, houter', get?_set, hcomm, hne, hne.symm]

/--
Whether two states differ in one binding only. In the second one a frame that stands on what is left
of a caller holds a copy; in the first one it does not, and the value of the copy is bound below.
-/
def Copied (name : String) (caller shared copied : State) : Prop :=
  ∃ upper frame outer a,
    shared = stacked upper (.inner (frame.erase name) (outer.set name a)) ∧
    copied = stacked upper (.inner frame outer) ∧
    frame.get? name = some a ∧ (outer.get? name).isSome ∧ KeepsHidden [name] caller outer

namespace Copied

variable {name : String} {caller shared copied : State}

/--
Two scopes of which one copies a name that the other one shares.
-/
theorem of_push {s inside : State} {b : Bindings} (hbound : (s.get? name).isSome)
    (hcopies : name ∉ b.copies) (hown : name ∉ b.values.map Prod.fst)
    (hpush : s.push b = .ok inside) :
    ∃ inside', s.push (b.copy name) = .ok inside' ∧ Copied name s inside inside' := by
  obtain ⟨a, ha⟩ := Option.isSome_iff_exists.1 hbound
  obtain ⟨frame, hframe, rfl⟩ := push_eq_ok_iff.1 hpush
  have hunbound : frame.get? name = none := by
    rw [get?_copyInto hframe, if_neg hcopies, NameMap.get?_empty]
  refine ⟨.inner ((frame.insert name a).insertAll b.values) s, ?_, ?_⟩
  . rw [push_copy ha, hframe]
    rfl
  . refine ⟨[], (frame.insert name a).insertAll b.values, s, a, ?_, rfl, ?_, hbound, .refl _ s⟩
    . rw [NameMap.erase_insertAll hown, NameMap.erase_insert, NameMap.erase_of_unbound hunbound,
        set_of_get? ha]
      rfl
    . rw [NameMap.get?_insertAll_of_notMem hown, NameMap.get?_insert_self]

theorem depth_eq (h : Copied name caller shared copied) : shared.depth = copied.depth := by
  obtain ⟨upper, frame, outer, a, rfl, rfl, _⟩ := h
  simp only [depth_stacked, State.depth, depth_set]

theorem depth_lt (h : Copied name caller shared copied) : caller.depth < copied.depth := by
  obtain ⟨upper, frame, outer, a, _, rfl, _, _, houter⟩ := h
  rw [depth_stacked, State.depth, houter.depth]
  omega

theorem get?_eq (h : Copied name caller shared copied) (other : String) :
    shared.get? other = copied.get? other := by
  obtain ⟨upper, frame, outer, a, rfl, rfl, hframe, _⟩ := h
  rw [get?_stacked, get?_stacked, State.get?, State.get?, NameMap.get?_erase, get?_set]
  split
  . next heq => rw [heq, hframe, Option.none_or, Option.some_or]
  . rfl

theorem compact_eq (h : Copied name caller shared copied) : shared.compact = copied.compact := by
  obtain ⟨upper, frame, outer, a, rfl, rfl, hframe, hbound, _⟩ := h
  induction upper with
  | nil =>
    rw [stacked_nil, stacked_nil, compact, compact, compact_set hbound]
    apply NameMap.insertAll_entries_erase _ hframe
    rw [get?_compact]
    exact hbound
  | cons top upper ih => rw [stacked_cons, stacked_cons, compact, compact, ih]

theorem base {frame : Frame} {outer : State} {a : Attribute} (hframe : frame.get? name = some a)
    (hbound : (outer.get? name).isSome) (houter : KeepsHidden [name] caller outer) :
    Copied name caller (.inner (frame.erase name) (outer.set name a)) (.inner frame outer) :=
  ⟨[], frame, outer, a, rfl, rfl, hframe, hbound, houter⟩

theorem exists_cutTo (h : Copied name caller shared copied) :
    ∃ frame a, copied.cutTo (caller.depth + 1) = .inner frame (copied.cutTo caller.depth) ∧
      frame.get? name = some a ∧
      shared.cutTo caller.depth = (copied.cutTo caller.depth).set name a ∧
      KeepsHidden [name] caller (copied.cutTo caller.depth) := by
  obtain ⟨upper, frame, outer, a, rfl, rfl, hframe, _, houter⟩ := h
  rw [← houter.depth, cutTo_stacked_inner, cutTo_stacked_outer,
    ← depth_set outer name a, cutTo_stacked_outer]
  exact ⟨frame, a, rfl, hframe, rfl, houter⟩

theorem inner (h : Copied name caller shared copied) (top : Frame) :
    Copied name caller (.inner top shared) (.inner top copied) := by
  obtain ⟨upper, frame, outer, a, rfl, rfl, h⟩ := h
  exact ⟨top :: upper, frame, outer, a, rfl, rfl, h⟩

theorem stacked (h : Copied name caller shared copied) (upper : List Frame) :
    Copied name caller (State.stacked upper shared) (State.stacked upper copied) := by
  induction upper with
  | nil => exact h
  | cons top upper ih => exact ih.inner top

/--
A write to the copy goes to the shared binding instead. Every other write ends in the same frame.
-/
theorem set_base {frame : Frame} {outer : State} {a : Attribute}
    (hframe : frame.get? name = some a) (hbound : (outer.get? name).isSome)
    (houter : KeepsHidden [name] caller outer) (other : String) (b : Attribute) :
    Copied name caller ((State.inner (frame.erase name) (outer.set name a)).set other b)
      ((State.inner frame outer).set other b) := by
  by_cases hother : other = name
  . rw [hother, set_inner_of_shared (by simp [NameMap.get?_erase]) (by simp [get?_set]),
      set_inner_of_bound (by simp [hframe]), set_set hbound, ← NameMap.erase_insert frame name b]
    exact .base (NameMap.get?_insert_self _ _ _) hbound houter
  have herase := NameMap.erase_insert_of_ne hother frame b
  rw [set_inner, set_inner, NameMap.get?_erase, if_neg hother, get?_set, if_neg hother]
  split
  . next h =>
    rw [set_comm hbound h.2 hother]
    apply base hframe _ (houter.trans (keepsHidden_set h.2 _ b))
    . rw [get?_set, if_neg (Ne.symm hother)]
      exact hbound
    . simpa using hother
  . rw [← herase]
    apply base _ hbound houter
    rw [NameMap.get?_insert_of_ne _ (Ne.symm hother), hframe]

theorem set (h : Copied name caller shared copied) (other : String) (b : Attribute) :
    Copied name caller (shared.set other b) (copied.set other b) := by
  obtain ⟨upper, frame, outer, a, rfl, rfl, hframe, hbound, houter⟩ := h
  have hbase := base hframe hbound houter
  rcases set_stacked upper other b ((State.inner frame outer).get? other).isSome with
    ⟨upper', hset⟩ | hset
  . rw [hset _ (congrArg Option.isSome (hbase.get?_eq other)), hset _ rfl]
    exact hbase.stacked upper'
  . rw [hset _ (congrArg Option.isSome (hbase.get?_eq other)), hset _ rfl]
    exact (set_base hframe hbound houter other b).stacked upper

theorem push (h : Copied name caller shared copied) {b : Bindings} {inside : State}
    (hpush : shared.push b = .ok inside) :
    ∃ inside', copied.push b = .ok inside' ∧ Copied name caller inside inside' := by
  rw [push_eq_ok_iff] at hpush
  obtain ⟨frame, hframe, rfl⟩ := hpush
  rw [copyInto_congr h.get?_eq] at hframe
  exact ⟨_, push_eq_ok_iff.2 ⟨frame, hframe, rfl⟩, h.inner _⟩

theorem push_of_error (h : Copied name caller shared copied) {b : Bindings} {e : Error}
    (hpush : shared.push b = .error e) : copied.push b = .error e := by
  unfold State.push at hpush ⊢
  rw [← copyInto_congr h.get?_eq]
  split at hpush
  . cases hpush
  . exact hpush

theorem pop_of_error (h : Copied name caller shared copied) {e : Error}
    (hpop : shared.pop = .error e) : copied.pop = .error e := by
  obtain ⟨upper, frame, outer, a, rfl, rfl, _⟩ := h
  cases upper <;> cases hpop

theorem pop (h : Copied name caller shared copied) {s' : State} (hpop : shared.pop = .ok s')
    (hdepth : caller.depth < s'.depth) :
    ∃ t', copied.pop = .ok t' ∧ Copied name caller s' t' := by
  obtain ⟨upper, frame, outer, a, rfl, rfl, h⟩ := h
  cases upper with
  | nil =>
    cases hpop
    rw [depth_set, h.2.2.depth] at hdepth
    omega
  | cons top upper =>
    cases hpop
    exact ⟨_, rfl, upper, frame, outer, a, rfl, rfl, h⟩

theorem cutTo (h : Copied name caller shared copied) {depth : Nat} (hdepth : caller.depth < depth) :
    Copied name caller (shared.cutTo depth) (copied.cutTo depth) := by
  obtain ⟨upper, frame, outer, a, rfl, rfl, hframe, hbound, houter⟩ := h
  rw [← houter.depth] at hdepth
  have hshared : (State.inner (frame.erase name) (outer.set name a)).depth ≤ depth := by
    rw [State.depth, depth_set]
    exact hdepth
  rw [cutTo_stacked hshared, cutTo_stacked hdepth, State.depth, State.depth, depth_set]
  exact ⟨_, frame, outer, a, rfl, rfl, hframe, hbound, houter⟩

theorem get_eq (h : Copied name caller shared copied) (other : String) :
    shared.get other = copied.get other := by
  unfold State.get
  rw [h.get?_eq]

theorem precedence_eq (h : Copied name caller shared copied) :
    shared.precedence = copied.precedence := by
  unfold State.precedence
  rw [h.get_eq]

theorem parameters_eq (h : Copied name caller shared copied) :
    shared.parameters = copied.parameters := by
  unfold State.parameters
  rw [h.get_eq]

/--
An operation that does not look at single frames answers alike with the copy and with the shared
binding.
-/
theorem apply (h : Copied name caller shared copied) (op : Operation)
    (hop : op.looksAtFrames = false) (hdepth : caller.depth < (op.apply shared).2.depth) :
    (op.apply shared).1 = (op.apply copied).1 ∧
      Copied name caller (op.apply shared).2 (op.apply copied).2 := by
  cases op with
  | getAll | getAllOr => cases hop
  | get other | getAs other shape =>
    simp only [Operation.apply_eq, Operation.result, h.get_eq]
    cases copied.get other <;> exact ⟨rfl, h⟩
  | precedence =>
    simp only [Operation.apply_eq, Operation.result, h.precedence_eq]
    cases copied.precedence <;> exact ⟨rfl, h⟩
  | parameters =>
    simp only [Operation.apply_eq, Operation.result, h.parameters_eq]
    cases copied.parameters <;> exact ⟨rfl, h⟩
  | compact =>
    simp only [Operation.apply_eq, Operation.result, h.compact_eq]
    exact ⟨trivial, h⟩
  | depth =>
    simp only [Operation.apply_eq, Operation.result, h.depth_eq]
    exact ⟨trivial, h⟩
  | set other b =>
    simp only [Operation.apply_eq, Operation.result]
    exact ⟨trivial, h.set other b⟩
  | replace other b =>
    simp only [Operation.apply_eq, Operation.result, h.get_eq]
    cases copied.get other with
    | error e => exact ⟨rfl, h⟩
    | ok old => exact ⟨rfl, h.set other b⟩
  | append other v =>
    simp only [Operation.apply_eq, Operation.result, h.get_eq]
    cases copied.get other with
    | error e => exact ⟨rfl, h⟩
    | ok old =>
      cases old with
      | values vs => exact ⟨rfl, h.set other _⟩
      | precedence | value | text => exact ⟨rfl, h⟩
  | bind v =>
    simp only [Operation.apply_eq, Operation.result, State.bind, h.parameters_eq]
    cases copied.parameters with
    | error e => exact ⟨rfl, h⟩
    | ok vs => exact ⟨rfl, h.set Attribute.parametersName _⟩
  | push b =>
    cases hpush : shared.push b with
    | error e =>
      simp only [Operation.apply_eq, Operation.result, hpush, h.push_of_error hpush]
      exact ⟨trivial, h⟩
    | ok inside =>
      obtain ⟨inside', hpush', hinside⟩ := h.push hpush
      simp only [Operation.apply_eq, Operation.result, hpush, hpush']
      exact ⟨trivial, hinside⟩
  | pop =>
    cases hpop : shared.pop with
    | error e =>
      simp only [Operation.apply_eq, Operation.result, hpop, h.pop_of_error hpop]
      exact ⟨trivial, h⟩
    | ok s' =>
      simp only [Operation.apply_eq, Operation.result, hpop] at hdepth
      obtain ⟨t', hpop', hend⟩ := h.pop hpop hdepth
      simp only [Operation.apply_eq, Operation.result, hpop, hpop']
      exact ⟨trivial, hend⟩

end Copied

end State

end SqlExpr
