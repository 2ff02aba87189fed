import SqlExpr.Proofs.State.Write

/-!
This module contains states with frames on top of others (`State.stacked`). As long as these frames
stay, every write either ends in them, whatever is below, or goes through to the state below
(`State.set_stacked`).
-/

namespace SqlExpr.State

/--
A state with more frames on top of it, the innermost one first.
-/
def stacked (upper : List Frame) (s : State) : State :=
  upper.foldr inner s

variable {upper : List Frame} {s s' : State} {name : String}

@[simp]
theorem stacked_nil (s : State) : stacked [] s = s := rfl

@[simp]
theorem stacked_cons (frame : Frame) (upper : List Frame) (s : State) :
    stacked (frame :: upper) s = inner frame (stacked upper s) := rfl

theorem depth_stacked (upper : List Frame) (s : State) :
    (stacked upper s).depth = upper.length + s.depth := by
  induction upper with
  | nil => simp
  | cons frame upper ih =>
    simp only [stacked_cons, depth, ih, List.length_cons]
    omega

theorem get?_stacked (upper : List Frame) (s : State) (name : String) :
    (stacked upper s).get? name = (upper.findSome? (·.get? name)).or (s.get? name) := by
  induction upper with
  | nil => rfl
  | cons frame upper ih =>
    simp only [stacked_cons, get?, ih, List.findSome?_cons]
    cases frame.get? name <;> rfl

/--
Where a write ends depends on the frames on top, and on whether the state below binds the name.
-/
theorem set_stacked (upper : List Frame) (name : String) (a : Attribute) (bound : Bool) :
    (∃ upper', ∀ s, (s.get? name).isSome = bound →
      (stacked upper s).set name a = stacked upper' s) ∨
    (∀ s, (s.get? name).isSome = bound →
      (stacked upper s).set name a = stacked upper (s.set name a)) := by
  induction upper with
  | nil =>
    right
    intro s _
    rfl
  | cons frame upper ih =>
    cases hframe : frame.get? name with
    | some old =>
      left
      refine ⟨frame.insert name a :: upper, ?_⟩
      intro s _
      rw [stacked_cons, set_inner_of_bound (by simp [hframe]), stacked_cons]
    | none =>
      by_cases hupper : (upper.findSome? (·.get? name)).isSome || bound
      -- The name is bound further out, so the write goes past the frame.
      . have hset (s : State) (hs : (s.get? name).isSome = bound) :
            (stacked (frame :: upper) s).set name a
              =
            inner frame ((stacked upper s).set name a) := by
          rw [stacked_cons, set_inner_of_shared hframe]
          rw [get?_stacked, Option.isSome_or, hs]
          exact hupper
        rcases ih with ⟨upper', ih⟩ | ih
        . left
          refine ⟨frame :: upper', ?_⟩
          intro s hs
          rw [hset s hs, ih s hs, stacked_cons]
        . right
          intro s hs
          rw [hset s hs, ih s hs, stacked_cons]
      . left
        refine ⟨frame.insert name a :: upper, ?_⟩
        intro s hs
        rw [stacked_cons, set_of_unbound, define, stacked_cons]
        have hnone : (upper.findSome? (·.get? name)).isSome = false ∧ bound = false := by
          simpa using hupper
        rw [hnone.2, Option.isSome_eq_false_iff, Option.isNone_iff_eq_none] at hs
        simpa [get?, hframe, get?_stacked, hs] using hnone.1

theorem cutTo_stacked {depth : Nat} (h : s.depth ≤ depth) :
    (stacked upper s).cutTo depth = stacked (upper.drop (upper.length + s.depth - depth)) s := by
  induction upper with
  | nil =>
    rw [stacked_nil, List.drop_nil, stacked_nil, cutTo_of_depth_le h]
  | cons frame upper ih =>
    simp only [stacked_cons, cutTo, depth_stacked, List.length_cons]
    split
    . next hlt =>
      have hkeep : upper.length + 1 + s.depth - depth = 0 := by omega
      rw [hkeep, List.drop_zero, stacked_cons]
    . next hge =>
      have hdrop : upper.length + 1 + s.depth - depth = upper.length + s.depth - depth + 1 := by
        omega
      rw [hdrop, List.drop_succ_cons, ih]

theorem cutTo_stacked_of_le {depth : Nat} (h : depth ≤ s.depth) (upper : List Frame) :
    (stacked upper s).cutTo depth = s.cutTo depth := by
  induction upper with
  | nil => rfl
  | cons frame upper ih =>
    simp only [stacked_cons, cutTo, depth_stacked]
    rw [if_neg (by omega), ih]

theorem cutTo_stacked_inner (upper : List Frame) (frame : Frame) (s : State) :
    (stacked upper (.inner frame s)).cutTo (s.depth + 1) = .inner frame s := by
  have hle : s.depth + 1 ≤ (State.inner frame s).depth := Nat.le_refl _
  rw [cutTo_stacked_of_le hle, cutTo_of_depth_le hle]

theorem cutTo_stacked_outer (upper : List Frame) (frame : Frame) (s : State) :
    (stacked upper (.inner frame s)).cutTo s.depth = s := by
  have hle : s.depth ≤ (State.inner frame s).depth := Nat.le_succ _
  rw [cutTo_stacked_of_le hle, cutTo, if_neg (Nat.lt_irrefl _), cutTo_of_depth_le (Nat.le_refl _)]

end SqlExpr.State
