import SqlExpr.Proofs.State.Effect
import SqlExpr.Proofs.State.Push
import SqlExpr.Proofs.State.Stacked

/-!
This module contains what a run in a scope leaves of the frames below it. A binding is hidden if a
frame further in binds its name as well. Writes overwrite bindings that are not hidden and define no
new ones below the innermost frame, so the frames below keep their names and their hidden bindings
(`State.KeepsHidden`). A state is `Over` a caller if a frame that binds given names, and maybe more
frames, stand on what is left of the caller in this sense. Every operation that does not remove this
frame keeps the state over the caller (`State.Over.effect`).
-/

namespace SqlExpr

/--
Whether two frames bind the same names, and those of a list to the same attributes.
-/
def Frame.AgreesOn (hidden : List String) (frame frame' : Frame) : Prop :=
  frame'.names = frame.names ∧ ∀ name ∈ hidden, frame'.get? name = frame.get? name

namespace State

/-! The bindings of one name in all frames. -/

theorem getAllOr_none (s : State) (name : String) :
    s.getAllOr name none = s.frames.map (·.get? name) := by
  simp only [getAllOr, Option.or_none]

theorem filterMap_getAllOr (s : State) (name : String) :
    (s.getAllOr name none).filterMap id = s.getAll name := by
  rw [getAllOr_none, List.filterMap_map]
  rfl

/-! What writes keep. -/

/--
Whether the frames of two states bind the same names, one by one, and a binding is the same in both
if its name is in the list or is bound by a frame further in.
-/
inductive KeepsHidden : List String → State → State → Prop where
  | root {hidden : List String} {frame frame' : Frame} (h : frame.AgreesOn hidden frame') :
      KeepsHidden hidden (.root frame) (.root frame')
  | inner {hidden : List String} {frame frame' : Frame} {outer outer' : State}
      (h : frame.AgreesOn hidden frame')
      (houter : KeepsHidden (frame.names ++ hidden) outer outer') :
      KeepsHidden hidden (.inner frame outer) (.inner frame' outer')

namespace KeepsHidden

variable {hidden : List String} {s s' : State} {name : String}

theorem refl (hidden : List String) (s : State) : KeepsHidden hidden s s := by
  induction s generalizing hidden with
  | root frame => exact .root ⟨rfl, fun _ _ => rfl⟩
  | inner frame outer ih => exact .inner ⟨rfl, fun _ _ => rfl⟩ (ih _)

theorem trans {between : State} (h : KeepsHidden hidden s between)
    (h' : KeepsHidden hidden between s') : KeepsHidden hidden s s' := by
  induction h generalizing s' with
  | root h =>
    cases h' with
    | root h' =>
      apply root ⟨h'.1.trans h.1, _⟩
      intro name hmem
      rw [h'.2 name hmem, h.2 name hmem]
  | inner h _ ih =>
    cases h' with
    | inner h' houter =>
      rw [h.1] at houter
      apply inner ⟨h'.1.trans h.1, _⟩ (ih houter)
      intro name hmem
      rw [h'.2 name hmem, h.2 name hmem]

theorem depth (h : KeepsHidden hidden s s') : s'.depth = s.depth := by
  induction h with
  | root h => rfl
  | inner h _ ih => simp only [State.depth, ih]

theorem map_names (h : KeepsHidden hidden s s') :
    s'.frames.map NameMap.names = s.frames.map NameMap.names := by
  induction h with
  | root h => simp only [frames_root, List.map_cons, List.map_nil, h.1]
  | inner h _ ih => simp only [frames_inner, List.map_cons, h.1, ih]

theorem getAllOr (h : KeepsHidden hidden s s') (hmem : name ∈ hidden)
    (default? : Option Attribute) : s'.getAllOr name default? = s.getAllOr name default? := by
  induction h with
  | root h => simp only [State.getAllOr, frames_root, List.map_cons, List.map_nil, h.2 name hmem]
  | inner h _ ih =>
    have houter := ih (List.mem_append_right _ hmem)
    simp only [State.getAllOr, frames_inner, List.map_cons, h.2 name hmem] at houter ⊢
    rw [houter]

theorem getAll (h : KeepsHidden hidden s s') (hmem : name ∈ hidden) :
    s'.getAll name = s.getAll name := by
  rw [← filterMap_getAllOr, h.getAllOr hmem, filterMap_getAllOr]

/--
Of the bindings of a name only the innermost one may differ.
-/
theorem tail_getAll (h : KeepsHidden hidden s s') (name : String) :
    (s'.getAll name).tail = (s.getAll name).tail := by
  induction h with
  | @root hidden frame frame' h =>
    have hbound := congrArg (name ∈ ·) h.1
    simp only [NameMap.mem_names_iff, eq_iff_iff] at hbound
    simp only [State.getAll, frames_root, List.filterMap_cons, List.filterMap_nil]
    cases hframe : frame.get? name <;> cases hframe' : frame'.get? name <;> simp_all
  | @inner hidden frame frame' outer outer' h houter ih =>
    have hbound := congrArg (name ∈ ·) h.1
    simp only [NameMap.mem_names_iff, eq_iff_iff] at hbound
    have htail (hmem : name ∈ frame.names) := houter.getAll (List.mem_append_left _ hmem)
    rw [NameMap.mem_names_iff] at htail
    simp only [State.getAll, frames_inner, List.filterMap_cons] at htail ih ⊢
    cases hframe : frame.get? name <;> cases hframe' : frame'.get? name <;> simp_all

end KeepsHidden

theorem keepsHidden_set {hidden : List String} {s : State} {name : String}
    (hbound : (s.get? name).isSome) (hmem : name ∉ hidden) (a : Attribute) :
    KeepsHidden hidden s (s.set name a) := by
  have hinsert {hidden : List String} {frame : Frame} (hframe : (frame.get? name).isSome)
      (hmem : name ∉ hidden) : frame.AgreesOn hidden (frame.insert name a) := by
    constructor
    . rw [NameMap.names_insert, if_pos]
      rw [NameMap.mem_names_iff]
      exact hframe
    . intro other hother
      apply NameMap.get?_insert_of_ne
      intro heq
      exact hmem (heq ▸ hother)
  induction s generalizing hidden with
  | root frame =>
    rw [set_root]
    exact .root (hinsert hbound hmem)
  | inner frame outer ih =>
    cases hframe : frame.get? name with
    | some old =>
      have hsome : (frame.get? name).isSome := by simp [hframe]
      rw [set_inner_of_bound hsome]
      exact .inner (hinsert hsome hmem) (.refl _ _)
    | none =>
      have houter : (outer.get? name).isSome := by simpa [State.get?, hframe] using hbound
      rw [set_inner_of_shared hframe houter]
      apply KeepsHidden.inner ⟨rfl, fun _ _ => rfl⟩
      apply ih houter
      rw [List.mem_append, NameMap.mem_names_iff, hframe]
      simpa using hmem

/--
Whether a state stands on what is left of a caller, with a frame in between that binds the names of
a list.
-/
def Over (own : List String) (caller s : State) : Prop :=
  ∃ upper frame outer, s = stacked upper (.inner frame outer) ∧
    (∀ name ∈ own, (frame.get? name).isSome) ∧ KeepsHidden own caller outer

namespace Over

variable {own : List String} {caller s s' : State}

theorem depth_lt (h : Over own caller s) : caller.depth < s.depth := by
  obtain ⟨upper, frame, outer, rfl, _, houter⟩ := h
  rw [depth_stacked, State.depth, houter.depth]
  omega

theorem inner (h : Over own caller s) (frame : Frame) : Over own caller (.inner frame s) := by
  obtain ⟨upper, own, outer, rfl, h⟩ := h
  exact ⟨frame :: upper, own, outer, rfl, h⟩

theorem set (h : Over own caller s) (name : String) (a : Attribute) :
    Over own caller (s.set name a) := by
  obtain ⟨upper, frame, outer, rfl, hown, houter⟩ := h
  rcases set_stacked upper name a (((State.inner frame outer).get? name).isSome) with
    ⟨upper', hset⟩ | hset
  . rw [hset _ rfl]
    exact ⟨upper', frame, outer, rfl, hown, houter⟩
  . rw [hset _ rfl]
    rcases set_inner_cases frame outer name a with heq | ⟨hframe, hbound, heq⟩
    . rw [heq]
      refine ⟨upper, frame.insert name a, outer, rfl, ?_, houter⟩
      intro other hother
      rw [NameMap.get?_insert]
      split
      . rfl
      . exact hown other hother
    -- The write goes on to the caller, so the frame in between does not bind the name.
    . have hmem : name ∉ own := by
        intro hmem
        simpa [hframe] using hown name hmem
      rw [heq]
      exact ⟨upper, frame, _, rfl, hown, houter.trans (keepsHidden_set hbound hmem a)⟩

theorem pop (h : Over own caller s) (hpop : s.pop = .ok s') (hdepth : caller.depth < s'.depth) :
    Over own caller s' := by
  obtain ⟨upper, frame, outer, rfl, hown, houter⟩ := h
  cases upper with
  | nil =>
    cases hpop
    rw [houter.depth] at hdepth
    omega
  | cons top upper =>
    cases hpop
    exact ⟨upper, frame, outer, rfl, hown, houter⟩

theorem push (h : Over own caller s) {b : Bindings} (hpush : s.push b = .ok s') :
    Over own caller s' := by
  obtain ⟨copied, _, rfl⟩ := push_eq_ok_iff.1 hpush
  exact h.inner _

theorem cutTo (h : Over own caller s) {depth : Nat} (hdepth : caller.depth < depth) :
    Over own caller (s.cutTo depth) := by
  obtain ⟨upper, frame, outer, rfl, hown, houter⟩ := h
  rw [cutTo_stacked]
  . exact ⟨_, frame, outer, rfl, hown, houter⟩
  . rw [State.depth, houter.depth]
    omega

/--
What is left of the caller when the frames on it are cut off, and of the frame that stands on it.
-/
theorem exists_cutTo (h : Over own caller s) :
    ∃ frame, s.cutTo (caller.depth + 1) = .inner frame (s.cutTo caller.depth) ∧
      (∀ name ∈ own, (frame.get? name).isSome) ∧ KeepsHidden own caller (s.cutTo caller.depth) := by
  obtain ⟨upper, frame, outer, rfl, hown, houter⟩ := h
  rw [← houter.depth, cutTo_stacked_inner, cutTo_stacked_outer]
  exact ⟨frame, rfl, hown, houter⟩

theorem effect (h : Over own caller s) {op : Operation} (heffect : op.Effect s s')
    (hdepth : caller.depth < s'.depth) : Over own caller s' := by
  cases heffect with
  | none => exact h
  | write name a _ => exact h.set name a
  | push b _ hpush => exact h.push hpush
  | pop _ hpop => exact h.pop hpop hdepth

end Over

end State

end SqlExpr
