import Mathlib.Data.List.Forall2
import SqlExpr.Proofs.State.Effect
import SqlExpr.Proofs.State.Push

/-!
This module contains what stays the same of a caller's frames while more frames stand on them. Two
states are `Similar` if their frames bind the same names, and `precedence` to the same; a state is
`Above` a caller if its frames stand on frames similar to those of the caller, with a frame in between
that binds `precedence` itself. Writes reach the caller's frames, but only to overwrite a binding, and
never the one of `precedence`: that is caught by the frame in between. So every operation that does
not remove this frame keeps the state above the caller (`Above.apply`).
-/

namespace SqlExpr

namespace Frame

/--
Whether two frames bind the same names, and `precedence` to the same attribute.
-/
def Similar (frame frame' : Frame) : Prop :=
  frame'.names = frame.names ∧
    frame'.get? Attribute.precedenceName = frame.get? Attribute.precedenceName

theorem Similar.refl (frame : Frame) : frame.Similar frame := ⟨rfl, rfl⟩

theorem Similar.trans {frame between frame' : Frame} (h : frame.Similar between)
    (h' : between.Similar frame') : frame.Similar frame' :=
  ⟨h'.1.trans h.1, h'.2.trans h.2⟩

theorem similar_insert {frame : Frame} {name : String} (h : (frame.get? name).isSome)
    (hne : name ≠ Attribute.precedenceName) (a : Attribute) :
    frame.Similar (frame.insert name a) := by
  constructor
  . rw [NameMap.names_insert, if_pos]
    rw [NameMap.mem_names_iff]
    exact h
  . rw [NameMap.get?_insert, if_neg hne.symm]

end Frame

namespace State

/--
Whether two states have similar frames, one by one.
-/
inductive Similar : State → State → Prop where
  | root {frame frame' : Frame} (h : frame.Similar frame') : Similar (.root frame) (.root frame')
  | inner {frame frame' : Frame} {outer outer' : State} (h : frame.Similar frame')
      (houter : Similar outer outer') : Similar (.inner frame outer) (.inner frame' outer')

namespace Similar

variable {s s' : State}

theorem refl (s : State) : Similar s s := by
  induction s with
  | root frame => exact .root (.refl frame)
  | inner frame outer ih => exact .inner (.refl frame) ih

theorem trans {between : State} (h : Similar s between) (h' : Similar between s') :
    Similar s s' := by
  induction h generalizing s' with
  | root h =>
    cases h' with
    | root h' => exact .root (h.trans h')
  | inner h _ ih =>
    cases h' with
    | inner h' houter => exact .inner (h.trans h') (ih houter)

theorem depth (h : Similar s s') : s'.depth = s.depth := by
  induction h with
  | root h => rfl
  | inner h _ ih => simp only [State.depth, ih]

theorem get?_precedence (h : Similar s s') :
    s'.get? Attribute.precedenceName = s.get? Attribute.precedenceName := by
  induction h with
  | root h => exact h.2
  | inner h _ ih => simp only [get?, h.2, ih]

theorem precedence (h : Similar s s') : s'.precedence = s.precedence := by
  unfold State.precedence get
  rw [h.get?_precedence]

theorem frames (h : Similar s s') : List.Forall₂ Frame.Similar s.frames s'.frames := by
  induction h with
  | root h => exact .cons h .nil
  | inner h _ ih => exact .cons h ih

end Similar

theorem similar_set {s : State} {name : String} (h : (s.get? name).isSome)
    (hne : name ≠ Attribute.precedenceName) (a : Attribute) : s.Similar (s.set name a) := by
  induction s with
  | root frame =>
    rw [set_root]
    apply Similar.root
    apply Frame.similar_insert h hne
  | inner frame outer ih =>
    cases hframe : frame.get? name with
    | some old =>
      have hbound : (frame.get? name).isSome := by simp [hframe]
      rw [set_inner_of_bound hbound]
      apply Similar.inner (Frame.similar_insert hbound hne a) (.refl outer)
    | none =>
      have houter : (outer.get? name).isSome := by simpa [get?, hframe] using h
      rw [set_inner_of_shared hframe houter]
      apply Similar.inner (.refl frame) (ih houter)

/--
Whether the frames of a state stand on frames similar to those of a caller, with a frame in between
that binds `precedence`.
-/
inductive Above (caller : State) : State → Prop where
  -- The frame in between is the innermost one.
  | own {frame : Frame} {outer : State} (hown : (frame.get? Attribute.precedenceName).isSome)
      (houter : Similar caller outer) : Above caller (.inner frame outer)
  -- More frames stand on it.
  | extra (frame : Frame) {outer : State} (houter : Above caller outer) :
      Above caller (.inner frame outer)

namespace Above

variable {caller s s' : State}

theorem depth_lt (h : Above caller s) : caller.depth < s.depth := by
  induction h with
  | own _ houter => simp only [State.depth, houter.depth]; omega
  | extra frame _ ih => simp only [State.depth]; omega

theorem of_similar (h : Above caller s) (hs : Similar s s') : Above caller s' := by
  induction h generalizing s' with
  | own hown houter =>
    cases hs with
    | inner h houter' =>
      apply own
      . rw [h.2]
        exact hown
      . apply houter.trans houter'
  | extra frame _ ih =>
    cases hs with
    | inner h houter' => exact extra _ (ih houter')

theorem set (h : Above caller s) (name : String) (a : Attribute) :
    Above caller (s.set name a) := by
  induction h with
  | @own frame outer hown houter =>
    rcases set_inner_cases frame outer name a with hset | ⟨hframe, hbound, hset⟩
    . rw [hset]
      apply own _ houter
      rw [NameMap.get?_insert]
      split
      . rfl
      . exact hown
    -- The write goes on to the caller, so the frame in between does not bind the name.
    . have hne : name ≠ Attribute.precedenceName := by
        intro heq
        simp [← heq, hframe] at hown
      rw [hset]
      apply own hown
      apply houter.trans (similar_set hbound hne a)
  | @extra frame outer houter ih =>
    rcases set_inner_cases frame outer name a with hset | ⟨_, _, hset⟩
    . rw [hset]
      apply extra _ houter
    . rw [hset]
      apply extra _ ih

theorem push (h : Above caller s) {b : Bindings} (hpush : s.push b = .ok s') :
    Above caller s' := by
  obtain ⟨copied, _, rfl⟩ := push_eq_ok_iff.1 hpush
  apply extra _ h

theorem pop (h : Above caller s) (hdepth : caller.depth + 1 < s.depth)
    (hpop : s.pop = .ok s') : Above caller s' := by
  cases h with
  | own _ houter =>
    simp only [State.depth, houter.depth] at hdepth
    omega
  | extra frame houter =>
    cases hpop
    exact houter

theorem cutTo (h : Above caller s) {depth : Nat} (hdepth : caller.depth < depth) :
    Above caller (s.cutTo depth) := by
  induction h with
  | own hown houter =>
    rw [← houter.depth] at hdepth
    simp only [State.cutTo, if_pos hdepth]
    apply own hown houter
  | extra frame houter ih =>
    simp only [State.cutTo]
    split
    . apply extra _ houter
    . apply ih

theorem similar_cutTo (h : Above caller s) : Similar caller (s.cutTo caller.depth) := by
  induction h with
  | own hown houter =>
    simp only [State.cutTo, houter.depth, Nat.lt_irrefl, if_false]
    rw [cutTo_of_depth_le (Nat.le_of_eq houter.depth)]
    exact houter
  | extra frame houter ih =>
    have hge := houter.depth_lt
    simp only [State.cutTo]
    rw [if_neg (by omega)]
    exact ih

theorem effect (h : Above caller s) {op : Operation} (heffect : op.Effect s s')
    (hpop : op = .pop → caller.depth + 1 < s.depth) : Above caller s' := by
  cases heffect with
  | none => exact h
  | write name a _ => exact h.set name a
  | push b _ hpush => exact h.push hpush
  | pop hop hs => exact h.pop (hpop hop) hs

theorem apply (h : Above caller s) {op : Operation}
    (hpop : op = .pop → caller.depth + 1 < s.depth) : Above caller (op.apply s).2 :=
  h.effect (op.effect_apply s) hpop

end Above

end State

end SqlExpr
