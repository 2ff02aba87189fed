import SqlExpr.State.Edit

/-!
This module contains what writes do to the frames of a state. A write changes one binding, the
innermost one of its name (`frames_set`), so writing back what is there changes nothing and the last
of several writes stays.
-/

namespace SqlExpr

namespace Entries

variable {α : Type}

theorem insert_of_lookup {name : String} {value : α} {entries : List (String × α)}
    (h : lookup name entries = some value) : insert name value entries = entries := by
  induction entries with
  | nil => cases h
  | cons entry rest ih =>
    obtain ⟨other, old⟩ := entry
    simp only [lookup] at h
    simp only [insert]
    split
    . next heq =>
      rw [if_pos heq] at h
      cases h
      rw [heq]
    . next hne =>
      rw [if_neg hne] at h
      rw [ih h]

theorem insert_insert (name : String) (old new : α) (entries : List (String × α)) :
    insert name new (insert name old entries) = insert name new entries := by
  induction entries with
  | nil => simp [insert]
  | cons entry rest ih =>
    obtain ⟨other, first⟩ := entry
    by_cases h : other = name
    . simp [insert, h]
    . simp [insert, h, ih]

end Entries

namespace NameMap

variable {α : Type}

theorem insert_of_get? {map : NameMap α} {name : String} {value : α}
    (h : map.get? name = some value) : map.insert name value = map := by
  cases map
  simp only [insert, mk.injEq]
  apply Entries.insert_of_lookup h

theorem insert_insert (map : NameMap α) (name : String) (old new : α) :
    (map.insert name old).insert name new = map.insert name new := by
  simp only [insert, mk.injEq]
  apply Entries.insert_insert

end NameMap

namespace State

theorem frames_inj {s s' : State} : s.frames = s'.frames ↔ s = s' := by
  constructor
  . intro h
    induction s generalizing s' with
    | root frame =>
      cases s' with
      | root frame' => simpa using h
      | inner frame' outer' => cases outer' <;> simp at h
    | inner frame outer ih =>
      cases s' with
      | root frame' => cases outer <;> simp at h
      | inner frame' outer' =>
        simp only [frames_inner, List.cons.injEq] at h
        rw [h.1, ih h.2]
  . intro h
    rw [h]

theorem set_root (frame : Frame) (name : String) (a : Attribute) :
    (root frame).set name a = root (frame.insert name a) := by
  by_cases h : (frame.get? name).isSome <;> simp [set, overwrite?, define, h]

theorem set_inner_of_bound {frame : Frame} {name : String} (h : (frame.get? name).isSome)
    (outer : State) (a : Attribute) :
    (inner frame outer).set name a = inner (frame.insert name a) outer := by
  simp [set, overwrite?, h]

theorem set_inner_of_shared {frame : Frame} {outer : State} {name : String}
    (hframe : frame.get? name = none) (houter : (outer.get? name).isSome) (a : Attribute) :
    (inner frame outer).set name a = inner frame (outer.set name a) := by
  rw [← overwrite?_isSome outer name a, Option.isSome_iff_exists] at houter
  cases houter with
  | intro outer' houter => simp [set, overwrite?, hframe, houter]

theorem frames_set {s : State} {name : String} {old : Attribute} (h : s.get? name = some old) :
    ∃ nearer frame farther, s.frames = nearer ++ frame :: farther ∧
      (∀ other ∈ nearer, other.get? name = none) ∧ frame.get? name = some old ∧
      ∀ a, (s.set name a).frames = nearer ++ frame.insert name a :: farther := by
  induction s with
  | root frame =>
    refine ⟨[], frame, [], rfl, by simp, h, ?_⟩
    intro a
    rw [set_root]
    rfl
  | inner frame outer ih =>
    cases hframe : frame.get? name with
    | some a =>
      refine ⟨[], frame, outer.frames, rfl, by simp, ?_, ?_⟩
      . simpa [get?, hframe] using h
      . intro a
        rw [set_inner_of_bound (by simp [hframe])]
        rfl
    | none =>
      have houter : outer.get? name = some old := by simpa [get?, hframe] using h
      obtain ⟨nearer, found, farther, hframes, hnearer, hfound, hset⟩ := ih houter
      refine ⟨frame :: nearer, found, farther, ?_, ?_, hfound, ?_⟩
      . rw [frames_inner, hframes]
        rfl
      . intro other hmem
        cases hmem with
        | head => exact hframe
        | tail _ hmem => exact hnearer other hmem
      . intro a
        rw [set_inner_of_shared hframe (by simp [houter]), frames_inner, hset]
        rfl

theorem set_of_get? {s : State} {name : String} {a : Attribute} (h : s.get? name = some a) :
    s.set name a = s := by
  obtain ⟨nearer, frame, farther, hframes, _, hframe, hset⟩ := frames_set h
  rw [← frames_inj, hset, hframes, NameMap.insert_of_get? hframe]

theorem set_set {s : State} {name : String} (h : (s.get? name).isSome) (old new : Attribute) :
    (s.set name old).set name new = s.set name new := by
  induction s with
  | root frame => rw [set_root, set_root, set_root, NameMap.insert_insert]
  | inner frame outer ih =>
    cases hframe : frame.get? name with
    | some a =>
      have hbound : (frame.get? name).isSome := by simp [hframe]
      rw [set_inner_of_bound hbound, set_inner_of_bound hbound, set_inner_of_bound (by simp)]
      rw [NameMap.insert_insert]
    | none =>
      have houter : (outer.get? name).isSome := by simpa [get?, hframe] using h
      rw [set_inner_of_shared hframe houter, set_inner_of_shared hframe houter]
      rw [set_inner_of_shared hframe (by simp [get?_set]), ih houter]

theorem set_of_unbound {s : State} {name : String} (h : s.get? name = none) (a : Attribute) :
    s.set name a = s.define name a := by
  have hnone := overwrite?_isSome s name a
  rw [h] at hnone
  unfold set
  cases hover : s.overwrite? name a with
  | none => rfl
  | some s' => simp [hover] at hnone

/--
A write goes past the innermost frame if that does not bind the name and a frame further out does.
-/
theorem set_inner (frame : Frame) (outer : State) (name : String) (a : Attribute) :
    (inner frame outer).set name a
      =
    if frame.get? name = none ∧ (outer.get? name).isSome then inner frame (outer.set name a)
    else inner (frame.insert name a) outer := by
  cases hframe : frame.get? name with
  | some old => rw [set_inner_of_bound (by simp [hframe]), if_neg (by simp)]
  | none =>
    cases houter : outer.get? name with
    | some old => rw [set_inner_of_shared hframe (by simp [houter]), if_pos (by simp)]
    | none =>
      rw [set_of_unbound (by simp [get?, hframe, houter]), if_neg (by simp)]
      rfl

theorem set_inner_cases (frame : Frame) (outer : State) (name : String) (a : Attribute) :
    (inner frame outer).set name a = inner (frame.insert name a) outer ∨
      frame.get? name = none ∧ (outer.get? name).isSome ∧
        (inner frame outer).set name a = inner frame (outer.set name a) := by
  rw [set_inner]
  split
  . next h => exact .inr ⟨h.1, h.2, rfl⟩
  . exact .inl rfl

/--
The position of the frame that a write to a name changes: the innermost frame that binds the name,
or the innermost of all if none does.
-/
def cell (s : State) (name : String) : Nat :=
  (s.frames.findIdx? fun frame => (frame.get? name).isSome).getD 0

theorem isSome_get? (s : State) (name : String) :
    (s.get? name).isSome = s.frames.any fun frame => (frame.get? name).isSome := by
  induction s with
  | root frame => simp [get?]
  | inner frame outer ih => simp [get?, ih]

theorem cell_root (frame : Frame) (name : String) : (root frame).cell name = 0 := by
  simp only [cell, frames_root, List.findIdx?_cons, List.findIdx?_nil]
  split <;> rfl

theorem cell_inner (frame : Frame) (outer : State) (name : String) :
    (inner frame outer).cell name
      =
    if frame.get? name = none ∧ (outer.get? name).isSome then outer.cell name + 1 else 0 := by
  rw [isSome_get?, ← List.findIdx?_isSome]
  unfold cell
  rw [frames_inner, List.findIdx?_cons]
  cases frame.get? name with
  | some a => simp
  | none =>
    cases outer.frames.findIdx? fun frame => (frame.get? name).isSome with
    | none => simp
    | some i => simp

/--
A write changes the binding of one name in one frame.
-/
theorem frames_set_eq_modify (s : State) (name : String) (a : Attribute) :
    (s.set name a).frames = s.frames.modify (s.cell name) (·.insert name a) := by
  induction s with
  | root frame => rw [set_root, cell_root, frames_root, frames_root, List.modify_zero_cons]
  | inner frame outer ih =>
    rw [set_inner, cell_inner]
    split
    . rw [frames_inner, frames_inner, List.modify_succ_cons, ih]
    . rw [frames_inner, frames_inner, List.modify_zero_cons]

end State

end SqlExpr
