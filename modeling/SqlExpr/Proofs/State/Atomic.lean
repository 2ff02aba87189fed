import SqlExpr.State.Guard
import SqlExpr.State.Operation

/-!
This module contains the proof that an operation or a guard that fails leaves the stack of frames as
it was (`Operation.apply_eq_of_error`, `Guard.begin_eq_of_error`), for every representation of the
stack. All of them first read what they need, then fail if they must, and only then write.
-/

namespace SqlExpr

/--
Whether an answer says that there is no attribute of the shape that is needed.
-/
def Answer.isFailure : Answer → Bool
  | .shaped none | .notAList => true
  | _ => false

namespace Edit

variable {σ α β : Type} {fails : α → Bool} {fails' : β → Bool}

/--
Whether an edit leaves the stack as it was if it fails: with an error, or with a value that counts as
a failure.
-/
def Atomic (fails : α → Bool) (edit : Edit σ α) : Prop :=
  ∀ s, match edit s with
    | .ok a s' => fails a → s' = s
    | .error _ s' => s' = s

/--
Whether an edit leaves the stack as it was.
-/
def Reads (edit : Edit σ α) : Prop :=
  edit.Atomic fun _ => true

/--
Whether an edit does not fail.
-/
def Succeeds (fails : α → Bool) (edit : Edit σ α) : Prop :=
  ∀ s, ∃ a s', edit s = .ok a s' ∧ fails a = false

theorem Reads.atomic {edit : Edit σ α} (h : edit.Reads) : edit.Atomic fails := by
  intro s
  have hs := h s
  split at hs
  . exact fun _ => hs rfl
  . exact hs

theorem Succeeds.atomic {edit : Edit σ α} (h : edit.Succeeds fails) : edit.Atomic fails := by
  intro s
  obtain ⟨a, s', hs, ha⟩ := h s
  rw [hs]
  intro hfails
  rw [ha] at hfails
  cases hfails

/--
An edit that reads may stand before one that leaves no trace of its failures.
-/
theorem Reads.bind {edit : Edit σ α} {next : α → Edit σ β} (h : edit.Reads)
    (hnext : ∀ a, (next a).Atomic fails') : Atomic fails' (edit >>= next) := by
  intro s
  have hs := h s
  simp only [Bind.bind, EStateM.bind]
  split at hs
  . next a s' heq =>
    cases hs rfl
    rw [heq]
    exact hnext a s
  . next e s' heq =>
    rw [heq]
    exact hs

/--
An edit that does not fail may stand behind one that leaves no trace of its errors.
-/
theorem Atomic.bind {edit : Edit σ α} {next : α → Edit σ β} (h : edit.Atomic fun _ => false)
    (hnext : ∀ a, (next a).Succeeds fails') : Atomic fails' (edit >>= next) := by
  intro s
  have hs := h s
  simp only [Bind.bind, EStateM.bind]
  split at hs
  . next a s' heq =>
    obtain ⟨b, s'', hb, hfails⟩ := hnext a s'
    rw [heq]
    simp only [hb, hfails, Bool.false_eq_true, false_implies]
  . next e s' heq =>
    rw [heq]
    exact hs

theorem Succeeds.bind {edit : Edit σ α} {next : α → Edit σ β}
    (h : edit.Succeeds fun _ => false) (hnext : ∀ a, (next a).Succeeds fails') :
    Succeeds fails' (edit >>= next) := by
  intro s
  obtain ⟨a, s', hs, _⟩ := h s
  obtain ⟨b, s'', hs', hb⟩ := hnext a s'
  refine ⟨b, s'', ?_, hb⟩
  simp only [Bind.bind, EStateM.bind, hs, hs']

theorem reads_pure (a : α) : Reads (pure a : Edit σ α) :=
  fun _ _ => rfl

theorem reads_throw (e : Error) : Reads (throw e : Edit σ α) :=
  fun _ => rfl

theorem succeeds_pure {a : α} (h : fails a = false) : Succeeds fails (pure a : Edit σ α) :=
  fun s => ⟨a, s, rfl, h⟩

theorem succeeds_modify (f : σ → σ) : Succeeds (fun _ => false) (modify f : Edit σ Unit) :=
  fun s => ⟨(), f s, rfl, rfl⟩

theorem reads_foldlM {f : β → α → Edit σ β} (h : ∀ b a, (f b a).Reads) (b : β) (l : List α) :
    Reads (l.foldlM f b) := by
  induction l generalizing b with
  | nil => exact reads_pure b
  | cons a l ih => exact (h b a).bind ih

variable [FrameStack σ]

theorem reads_frames : (frames : Edit σ (List Frame)).Reads :=
  fun _ _ => rfl

theorem reads_depth : (depth : Edit σ Nat).Reads :=
  reads_frames.bind fun _ => reads_pure _

theorem reads_cell (name : String) : (cell name : Edit σ (Nat × Attribute)).Reads := by
  refine reads_frames.bind fun frames => ?_
  split
  . exact reads_pure _
  . exact reads_throw _

theorem reads_find (name : String) : (find name : Edit σ Attribute).Reads :=
  (reads_cell name).bind fun _ => reads_pure _

theorem reads_copyTo (frame : Frame) (name : String) :
    (copyTo frame name : Edit σ Frame).Reads :=
  (reads_find name).bind fun _ => reads_pure _

theorem reads_precedence : (precedence : Edit σ Precedence).Reads := by
  refine (reads_find _).bind fun a => ?_
  split
  . exact reads_pure _
  . exact reads_throw _

theorem reads_parameters : (parameters : Edit σ (List Value)).Reads := by
  refine (reads_find _).bind fun a => ?_
  split
  . exact reads_pure _
  . exact reads_throw _

theorem succeeds_write (i : Nat) (name : String) (a : Attribute) :
    (write i name a : Edit σ Unit).Succeeds fun _ => false :=
  succeeds_modify _

theorem atomic_assign (name : String) (a : Attribute) :
    (assign name a : Edit σ Unit).Atomic fun _ => false := by
  refine reads_frames.bind fun frames => ?_
  split <;> exact (succeeds_write _ name a).atomic

/--
A copy that cannot be made ends a push before the stack is changed.
-/
theorem atomic_push (b : Bindings) : (push b : Edit σ Unit).Atomic fun _ => false :=
  (reads_foldlM reads_copyTo _ b.copies).bind fun _ => (succeeds_modify _).atomic

theorem atomic_pop : (pop : Edit σ Unit).Atomic fun _ => false := by
  refine reads_depth.bind fun n => ?_
  split
  . exact (reads_throw _).bind fun _ => (succeeds_modify _).atomic
  . exact (succeeds_modify _).atomic

theorem atomic_bindValue (v : Value) : (bindValue v : Edit σ Unit).Atomic fun _ => false := by
  refine (reads_cell _).bind fun cell => ?_
  dsimp only
  split
  . exact (succeeds_write _ _ _).atomic
  . exact (reads_throw _).atomic

end Edit

namespace Operation

variable {σ : Type} [FrameStack σ] {op : Operation} {s : σ} {e : Error}

open Edit

theorem atomic_run (op : Operation) : (op.run : Edit σ Answer).Atomic Answer.isFailure := by
  cases op with
  | get name => exact (reads_find name).bind fun _ => (reads_pure _).atomic
  | getAs name shape => exact (reads_find name).bind fun _ => (reads_pure _).atomic
  | set name a => exact (atomic_assign name a).bind fun _ => succeeds_pure rfl
  | replace name a =>
    refine (reads_cell name).bind fun cell => Succeeds.atomic ?_
    exact (succeeds_write cell.1 name a).bind fun _ => succeeds_pure rfl
  | append name v =>
    refine (reads_cell name).bind fun cell => ?_
    dsimp only
    split
    . exact ((succeeds_write cell.1 name _).bind fun _ => succeeds_pure rfl).atomic
    . exact (reads_pure _).atomic
  | getAll name => exact reads_frames.bind fun _ => (reads_pure _).atomic
  | getAllOr name default? => exact reads_frames.bind fun _ => (reads_pure _).atomic
  | compact => exact reads_frames.bind fun _ => (reads_pure _).atomic
  | push b => exact (atomic_push b).bind fun _ => succeeds_pure rfl
  | pop => exact atomic_pop.bind fun _ => succeeds_pure rfl
  | depth => exact reads_depth.bind fun _ => (reads_pure _).atomic
  | precedence => exact reads_precedence.bind fun _ => (reads_pure _).atomic
  | parameters => exact reads_parameters.bind fun _ => (reads_pure _).atomic
  | bind v => exact (atomic_bindValue v).bind fun _ => succeeds_pure rfl

theorem apply_eq_of_error (h : (op.apply s).1 = .error e) : (op.apply s).2 = s := by
  have hs := atomic_run op s
  unfold apply at *
  split at hs
  . next heq =>
    rw [heq] at h
    cases h
  . next heq =>
    rw [heq]
    exact hs

/--
An operation leaves the state as it was also where its failure is an answer.
-/
theorem apply_eq_of_isFailure {answer : Answer} (h : (op.apply s).1 = .ok answer)
    (hanswer : answer.isFailure) : (op.apply s).2 = s := by
  have hs := atomic_run op s
  unfold apply at *
  split at hs
  . next heq =>
    rw [heq] at h ⊢
    cases h
    exact hs hanswer
  . next heq =>
    rw [heq] at h
    cases h

end Operation

namespace Guard

variable {σ : Type} [FrameStack σ] {guard : Guard} {s s' : σ} {e : Error}

open Edit

theorem atomic_begin (guard : Guard) :
    (guard.begin : Edit σ OpenGuard).Atomic fun _ => false := by
  have hdepth (opened : Nat → OpenGuard) :
      Succeeds (fun _ => false) (do return opened (← depth) : Edit σ OpenGuard) :=
    fun s => ⟨_, s, rfl, rfl⟩
  cases guard with
  | scope b => exact (atomic_push b).bind fun _ => hdepth .scope
  | parentView =>
    refine reads_frames.bind fun frames => ?_
    exact atomic_pop.bind fun _ => hdepth (.parentView frames.head?)

theorem begin_eq_of_error (h : guard.begin s = .error e s') : s' = s := by
  have hs := atomic_begin guard s
  rw [h] at hs
  exact hs

end Guard

end SqlExpr
