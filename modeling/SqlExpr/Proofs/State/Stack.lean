import SqlExpr.Proofs.State.Guard

/-!
This module contains the proof that a `State` is a faithful account of a `Stack`. Edits do the same
to both (`Operation.refines_run`, `Guard.refines_begin`): the innermost frame is only removed when it
is checked that there is another one. Closing a guard does the same to both if it cuts above the
root (`OpenGuard.close_toStack`).
-/

namespace SqlExpr

def State.toStack (s : State) : Stack := ⟨s.frames⟩

namespace Edit

variable {α β : Type}

/--
The result of an edit with another stack that it ends with.
-/
def toStack : EStateM.Result Error State α → EStateM.Result Error Stack α
  | .ok a s => .ok a s.toStack
  | .error e s => .error e s.toStack

/--
Whether an edit does to a stack what another one does to the state with the same frames, with the
same result.
-/
def Refines (edit : Edit Stack α) (edit' : Edit State α) : Prop :=
  ∀ s, edit s.toStack = toStack (edit' s)

theorem refines_pure (a : α) : Refines (pure a) (pure a) :=
  fun _ => rfl

theorem refines_throw (e : Error) : Refines (throw e : Edit Stack α) (throw e) :=
  fun _ => rfl

theorem Refines.bind {edit : Edit Stack α} {edit' : Edit State α} {next : α → Edit Stack β}
    {next' : α → Edit State β} (h : Refines edit edit')
    (hnext : ∀ a, Refines (next a) (next' a)) : Refines (edit >>= next) (edit' >>= next') := by
  intro s
  simp only [Bind.bind, EStateM.bind, h s]
  cases edit' s with
  | ok a s' => exact hnext a s'
  | error e s' => rfl

theorem refines_foldlM {f : β → α → Edit Stack β} {f' : β → α → Edit State β}
    (h : ∀ b a, Refines (f b a) (f' b a)) (b : β) (l : List α) :
    Refines (l.foldlM f b) (l.foldlM f' b) := by
  induction l generalizing b with
  | nil => exact refines_pure b
  | cons a l ih => exact (h b a).bind ih

theorem refines_modify {f : Stack → Stack} {f' : State → State}
    (h : ∀ s : State, f s.toStack = (f' s).toStack) : Refines (modify f) (modify f') := by
  intro s
  have hs : (modify f : Edit Stack Unit) s.toStack = .ok () (f s.toStack) := rfl
  rw [hs, h]
  rfl

theorem refines_frames : Refines frames frames :=
  fun _ => rfl

theorem refines_depth : Refines depth depth :=
  refines_frames.bind fun _ => refines_pure _

theorem refines_cell (name : String) : Refines (cell name) (cell name) := by
  refine refines_frames.bind fun frames => ?_
  split
  . exact refines_pure _
  . exact refines_throw _

theorem refines_find (name : String) : Refines (find name) (find name) :=
  (refines_cell name).bind fun _ => refines_pure _

theorem refines_write (i : Nat) (name : String) (a : Attribute) :
    Refines (write i name a) (write i name a) := by
  refine refines_modify fun s => ?_
  exact congrArg Stack.mk (s.frames_modify i _).symm

theorem refines_assign (name : String) (a : Attribute) :
    Refines (assign name a) (assign name a) := by
  refine refines_frames.bind fun frames => ?_
  split <;> exact refines_write _ name a

theorem refines_copyTo (frame : Frame) (name : String) :
    Refines (copyTo frame name) (copyTo frame name) :=
  (refines_find name).bind fun _ => refines_pure _

theorem refines_push (b : Bindings) : Refines (push b) (push b) :=
  (refines_foldlM refines_copyTo _ b.copies).bind fun _ => refines_modify fun _ => rfl

/--
The last frame is not removed from a stack either, because its depth is checked before.
-/
theorem refines_pop : Refines pop pop := by
  intro s
  rw [pop_eq]
  cases s with
  | root frame => rfl
  | inner frame outer =>
    have hdepth : ¬ (State.inner frame outer).toStack.frames.length ≤ 1 := by
      have hpos := outer.depth_pos
      rw [State.toStack, State.length_frames, State.depth]
      omega
    have hread : (depth : Edit Stack _) (State.inner frame outer).toStack
        = .ok (State.inner frame outer).toStack.frames.length (State.inner frame outer).toStack :=
      rfl
    simp only [pop, Bind.bind, EStateM.bind, hread, if_neg hdepth]
    rfl

theorem refines_precedence : Refines precedence precedence := by
  refine (refines_find _).bind fun a => ?_
  split
  . exact refines_pure _
  . exact refines_throw _

theorem refines_parameters : Refines parameters parameters := by
  refine (refines_find _).bind fun a => ?_
  split
  . exact refines_pure _
  . exact refines_throw _

theorem refines_bindValue (v : Value) : Refines (bindValue v) (bindValue v) := by
  refine (refines_cell _).bind fun cell => ?_
  dsimp only
  split
  . exact refines_write _ _ _
  . exact refines_throw _

theorem refines_intoParameters : Refines intoParameters intoParameters := by
  refine (refines_cell _).bind fun cell => ?_
  dsimp only
  split
  . exact (refines_write _ _ _).bind fun _ => refines_pure _
  . exact refines_throw _

end Edit

open Edit

namespace Operation

theorem refines_run (op : Operation) : Refines op.run op.run := by
  cases op with
  | get name | getAs name shape => exact (refines_find name).bind fun _ => refines_pure _
  | set name a => exact (refines_assign name a).bind fun _ => refines_pure _
  | replace name a =>
    refine (refines_cell name).bind fun cell => ?_
    exact (refines_write cell.1 name a).bind fun _ => refines_pure _
  | append name v =>
    refine (refines_cell name).bind fun cell => ?_
    dsimp only
    split
    . exact (refines_write cell.1 name _).bind fun _ => refines_pure _
    . exact refines_pure _
  | getAll | getAllOr | compact => exact refines_frames.bind fun _ => refines_pure _
  | push b => exact (refines_push b).bind fun _ => refines_pure _
  | pop => exact refines_pop.bind fun _ => refines_pure _
  | depth => exact refines_depth.bind fun _ => refines_pure _
  | precedence => exact refines_precedence.bind fun _ => refines_pure _
  | parameters => exact refines_parameters.bind fun _ => refines_pure _
  | bind v => exact (refines_bindValue v).bind fun _ => refines_pure _

theorem apply_toStack (op : Operation) (s : State) :
    op.apply s.toStack = ((op.apply s).1, (op.apply s).2.toStack) := by
  unfold apply
  rw [refines_run op s]
  cases op.run s <;> rfl

end Operation

theorem Guard.refines_begin (guard : Guard) : Refines guard.begin guard.begin := by
  cases guard with
  | scope b =>
    exact (refines_push b).bind fun _ => refines_depth.bind fun _ => refines_pure _
  | parentView =>
    refine refines_frames.bind fun frames => ?_
    exact refines_pop.bind fun _ => refines_depth.bind fun _ => refines_pure _

/--
A guard that cuts above the root does not see that a stack may become empty.
-/
theorem OpenGuard.close_toStack {opened : OpenGuard} (h : 0 < opened.base) (s : State) :
    opened.close s.toStack = (opened.close s).toStack := by
  have hcut : FrameStack.truncate opened.base s.toStack = (s.cutTo opened.base).toStack := by
    apply congrArg Stack.mk
    rw [s.frames_cutTo h, ← s.length_frames]
    rfl
  unfold close
  rw [hcut]
  cases opened with
  | scope depth => rfl
  | parentView hidden? depth => cases hidden? <;> rfl

end SqlExpr
