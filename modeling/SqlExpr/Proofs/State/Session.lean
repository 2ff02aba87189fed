import SqlExpr.Proofs.State.Stack

/-!
This module contains sessions: what becomes of a stack of frames as operations are carried out and
guards are opened and closed, one event after another. The guards that are open keep what they wrote
down until they are closed, whatever happens in between.

A session of a `Stack` goes as the one of a `State` with the same frames (`Session.toStack_run`),
because every guard that is open cuts above the root (`Session.Bounded`).
-/

namespace SqlExpr

inductive Event where
  | operation (op : Operation)
  -- Open a guard. If this fails, no guard is opened.
  | enter (guard : Guard)
  -- Close the innermost guard that is open.
  | leave

/--
A stack of frames with the guards that are open, the innermost one first.
-/
structure Session (σ : Type) where
  state : σ
  opened : List OpenGuard

namespace Session

section

variable {σ : Type} [FrameStack σ]

def step (session : Session σ) : Event → Session σ
  | .operation op => ⟨(op.apply session.state).2, session.opened⟩
  | .enter guard =>
    match guard.begin session.state with
    | .ok opened inside => ⟨inside, opened :: session.opened⟩
    | .error _ s => ⟨s, session.opened⟩
  | .leave =>
    match session.opened with
    | [] => session
    | opened :: rest => ⟨opened.close session.state, rest⟩

def run (session : Session σ) (events : List Event) : Session σ :=
  events.foldl step session

theorem run_append (session : Session σ) (events later : List Event) :
    session.run (events ++ later) = (session.run events).run later :=
  List.foldl_append

end

def toStack (session : Session State) : Session Stack :=
  ⟨session.state.toStack, session.opened⟩

/--
Whether all guards that are open leave at least one frame when they are closed.
-/
def Bounded {σ : Type} (session : Session σ) : Prop :=
  ∀ opened ∈ session.opened, 0 < opened.base

theorem bounded_nil {σ : Type} (s : σ) : Bounded ⟨s, []⟩ :=
  List.forall_mem_nil _

theorem Bounded.step {session : Session State} (h : session.Bounded) (event : Event) :
    (session.step event).Bounded := by
  cases event with
  | operation op => exact h
  | enter guard =>
    cases henter : guard.enter session.state with
    | error e =>
      simp only [Session.step, Guard.begin_of_error henter]
      exact h
    | ok inside =>
      obtain ⟨opened, hbegin, hbase, _⟩ := Guard.begin_of_ok henter
      simp only [Session.step, hbegin]
      exact List.forall_mem_cons.2 ⟨hbase, h⟩
  | leave =>
    obtain ⟨s, guards⟩ := session
    cases guards with
    | nil => exact h
    | cons opened rest => exact (List.forall_mem_cons.1 h).2

theorem Bounded.run {session : Session State} (h : session.Bounded) (events : List Event) :
    (session.run events).Bounded := by
  induction events generalizing session with
  | nil => exact h
  | cons event events ih => exact ih (h.step event)

/--
One event does to a stack what it does to the state with the same frames.
-/
theorem toStack_step {session : Session State} (h : session.Bounded) (event : Event) :
    session.toStack.step event = (session.step event).toStack := by
  cases event with
  | operation op => simp only [step, toStack, op.apply_toStack]
  | enter guard =>
    simp only [step, toStack, guard.refines_begin session.state]
    cases guard.begin session.state <;> rfl
  | leave =>
    obtain ⟨s, guards⟩ := session
    cases guards with
    | nil => rfl
    | cons opened rest =>
      have hbase := h opened List.mem_cons_self
      simp only [step, toStack, OpenGuard.close_toStack hbase]

theorem toStack_run {session : Session State} (h : session.Bounded) (events : List Event) :
    session.toStack.run events = (session.run events).toStack := by
  induction events generalizing session with
  | nil => rfl
  | cons event events ih =>
    have hstep := ih (h.step event)
    rw [← toStack_step h] at hstep
    exact hstep

end Session

namespace State

/--
Whether some events lead from a state to another one and leave some more guards open.
-/
def Leads (s : State) (opened : List OpenGuard) (t : State) : Prop :=
  ∃ events, ∀ rest, Session.run ⟨s, rest⟩ events = ⟨t, opened ++ rest⟩

variable {s t u : State} {opened opened' : List OpenGuard}

theorem Leads.refl (s : State) : s.Leads [] s :=
  ⟨[], fun _ => rfl⟩

theorem Leads.trans (h : s.Leads opened t) (h' : t.Leads opened' u) :
    s.Leads (opened' ++ opened) u := by
  obtain ⟨events, hevents⟩ := h
  obtain ⟨later, hlater⟩ := h'
  refine ⟨events ++ later, ?_⟩
  intro rest
  rw [Session.run_append, hevents, hlater, List.append_assoc]

theorem leads_apply (op : Operation) (s : State) : s.Leads [] (op.apply s).2 :=
  ⟨[.operation op], fun _ => rfl⟩

theorem Leads.close {guard : OpenGuard} (h : s.Leads [guard] t) : s.Leads [] (guard.close t) := by
  obtain ⟨events, hevents⟩ := h
  refine ⟨events ++ [.leave], ?_⟩
  intro rest
  rw [Session.run_append, hevents]
  rfl

end State

namespace Guard

variable {guard : Guard} {s inside s' : State}

theorem leads_begin {opened : OpenGuard} (h : guard.begin s = .ok opened inside) :
    s.Leads [opened] inside := by
  refine ⟨[.enter guard], ?_⟩
  intro rest
  simp only [Session.run, List.foldl_cons, List.foldl_nil, Session.step, h]
  rfl

theorem leads_of_begin_error {e : Error} (h : guard.begin s = .error e s') : s.Leads [] s' := by
  refine ⟨[.enter guard], ?_⟩
  intro rest
  simp only [Session.run, List.foldl_cons, List.foldl_nil, Session.step, h]
  rfl

theorem leads_run {α : Type} {result : Except Error α}
    {body : State → Option (Except Error α × State)}
    (hbody : ∀ inside r after, body inside = some (r, after) → inside.Leads [] after)
    (h : guard.run s body = some (result, s')) : s.Leads [] s' := by
  unfold run at h
  split at h
  . next hbegin =>
    cases h
    exact leads_of_begin_error hbegin
  . next opened inside hbegin =>
    split at h
    . cases h
    . next r after hafter =>
      cases h
      exact ((leads_begin hbegin).trans (hbody inside _ after hafter)).close

end Guard

end SqlExpr
