import SqlExpr.Proofs.State.Write

/-!
This module contains what a pushed frame binds: the names that are copied, to what they stand for in
the state below, and over them the bindings of its own (`State.push_eq_ok_iff`).
-/

namespace SqlExpr

theorem NameMap.mem_names_insertAll {α : Type} (map : NameMap α) (bindings : List (String × α))
    (name : String) :
    name ∈ (map.insertAll bindings).names ↔ name ∈ map.names ∨ name ∈ bindings.map Prod.fst := by
  induction bindings generalizing map with
  | nil => simp
  | cons binding rest ih =>
    rw [insertAll_cons, ih, names_insert, List.map_cons, List.mem_cons]
    split
    . next hmem => grind
    . rw [List.mem_append, List.mem_singleton, or_assoc]

namespace State

variable {s inside : State} {frame frame' : Frame} {names : List String} {b : Bindings}

theorem get?_copyInto (h : s.copyInto frame names = .ok frame') (name : String) :
    frame'.get? name = if name ∈ names then s.get? name else frame.get? name := by
  induction names generalizing frame with
  | nil =>
    cases h
    rfl
  | cons first names ih =>
    unfold copyInto get at h
    cases hfirst : s.get? first with
    | none =>
      rw [hfirst] at h
      cases h
    | some a =>
      rw [hfirst] at h
      rw [ih h, NameMap.get?_insert]
      by_cases hname : name = first
      . simp [hname, hfirst]
      . simp [hname]

theorem isSome_of_copyInto (h : s.copyInto frame names = .ok frame') {name : String}
    (hmem : name ∈ names) : (s.get? name).isSome := by
  induction names generalizing frame with
  | nil => cases hmem
  | cons first names ih =>
    unfold copyInto get at h
    cases hfirst : s.get? first with
    | none =>
      rw [hfirst] at h
      cases h
    | some a =>
      rw [hfirst] at h
      cases hmem with
      | head => simp [hfirst]
      | tail _ hmem => exact ih h hmem

/--
What a push copies depends only on what look-ups find.
-/
theorem copyInto_congr {s' : State} (h : ∀ name, s.get? name = s'.get? name) (frame : Frame)
    (names : List String) : s.copyInto frame names = s'.copyInto frame names := by
  induction names generalizing frame with
  | nil => rfl
  | cons name names ih =>
    unfold copyInto get
    rw [h name]
    cases s'.get? name with
    | none => rfl
    | some a => exact ih _

theorem push_eq_ok_iff :
    s.push b = .ok inside
      ↔
    ∃ copied, s.copyInto .empty b.copies = .ok copied ∧
      inside = .inner (copied.insertAll b.values) s := by
  unfold push
  cases s.copyInto .empty b.copies with
  | error e => simp
  | ok copied => simp [eq_comm]

theorem copyInto_concat {name : String} {a : Attribute} (h : s.get? name = some a) (frame : Frame)
    (names : List String) :
    s.copyInto frame (names ++ [name]) = (s.copyInto frame names).map (·.insert name a) := by
  induction names generalizing frame with
  | nil =>
    simp only [List.nil_append, copyInto, get, h]
    rfl
  | cons first names ih =>
    simp only [List.cons_append, copyInto]
    cases s.get first with
    | error e => rfl
    | ok old => exact ih _

/--
Copying one more name that is bound neither makes a push fail nor lets it succeed.
-/
theorem push_copy {name : String} {a : Attribute} (h : s.get? name = some a) (b : Bindings) :
    s.push (b.copy name)
      =
    (s.copyInto .empty b.copies).map fun copied =>
      .inner ((copied.insert name a).insertAll b.values) s := by
  unfold push Bindings.copy
  rw [copyInto_concat h]
  cases s.copyInto .empty b.copies <;> rfl

theorem push_copy_of_error {name : String} {e : Error} (hbound : (s.get? name).isSome)
    (h : s.push b = .error e) : s.push (b.copy name) = .error e := by
  obtain ⟨a, ha⟩ := Option.isSome_iff_exists.1 hbound
  unfold push at h
  split at h
  . cases h
  . next hcopied =>
    rw [push_copy ha, hcopied, ← h]
    rfl

theorem push_copy_of_mem {name : String} (hmem : name ∈ b.copies) (h : s.push b = .ok inside) :
    s.push (b.copy name) = .ok inside := by
  obtain ⟨copied, hcopied, rfl⟩ := push_eq_ok_iff.1 h
  obtain ⟨a, ha⟩ := Option.isSome_iff_exists.1 (isSome_of_copyInto hcopied hmem)
  have hframe : copied.get? name = some a := by
    rw [get?_copyInto hcopied, if_pos hmem, ha]
  simp only [push_copy ha, hcopied, Except.map, NameMap.insert_of_get? hframe]

theorem depth_push (h : s.push b = .ok inside) : inside.depth = s.depth + 1 := by
  obtain ⟨copied, _, rfl⟩ := push_eq_ok_iff.1 h
  rfl

/--
A pushed frame binds every name that is copied or bound.
-/
theorem exists_frame_of_push (h : s.push b = .ok inside) :
    ∃ frame, inside = .inner frame s ∧
      ∀ name, name ∈ b.copies ∨ name ∈ b.values.map Prod.fst → (frame.get? name).isSome := by
  obtain ⟨copied, hcopied, rfl⟩ := push_eq_ok_iff.1 h
  refine ⟨_, rfl, ?_⟩
  intro name hname
  rw [← NameMap.mem_names_iff, NameMap.mem_names_insertAll, NameMap.mem_names_iff]
  cases hname with
  | inl hcopy =>
    left
    rw [get?_copyInto hcopied, if_pos hcopy]
    exact isSome_of_copyInto hcopied hcopy
  | inr hbind => exact .inr hbind

end State

end SqlExpr
