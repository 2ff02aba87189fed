import SqlExpr.State.Edit

/-!
This module contains guards, under which part of a run sees a changed stack of frames. A guard is
opened, a body runs, and on every way out of the body the guard is closed again: frames that the
body left behind are dropped and frames that were hidden come back. What a guard needs for this is
written down when it is opened (`OpenGuard`), whatever the body does to the stack.

A body is a function from states to a result and the state that it leaves. The result is `none` if
the body did not come to an end.
-/

namespace SqlExpr

inductive Guard where
  -- One more frame.
  | scope (b : Bindings)
  -- Without the innermost frame, which must not be the root.
  | parentView

/--
A guard that is open, with what is needed to close it.
-/
inductive OpenGuard where
  -- The number of frames, with the one of the scope.
  | scope (depth : Nat)
  -- The frame that is hidden, and the number of frames below it.
  | parentView (hidden? : Option Frame) (depth : Nat)

variable {σ : Type} [FrameStack σ]

namespace OpenGuard

/--
The number of frames that are not of the guard.
-/
def base : OpenGuard → Nat
  | .scope depth => depth - 1
  | .parentView _ depth => depth

/--
Cut the stack back to the frames that are not of the guard, and put the hidden frame on top of them
as it was.
-/
def close (opened : OpenGuard) (s : σ) : σ :=
  let below := FrameStack.truncate opened.base s
  match opened with
  | .parentView (some hidden) _ => FrameStack.push hidden below
  | _ => below

end OpenGuard

namespace Guard

def begin : Guard → Edit σ OpenGuard
  | .scope b => do
    Edit.push b
    return .scope (← Edit.depth)
  | .parentView => do
    let hidden? := (← Edit.frames).head?
    Edit.pop
    return .parentView hidden? (← Edit.depth)

/--
Run a body under a guard. If the guard cannot be opened, the body does not run.
-/
def run {α : Type} (guard : Guard) (s : σ) (body : σ → Option (Except Error α × σ)) :
    Option (Except Error α × σ) :=
  match guard.begin s with
  | .error e s' => some (.error e, s')
  | .ok opened inside =>
    match body inside with
    | none => none
    | some (result, after) => some (result, opened.close after)

theorem run_mono {α : Type} {guard : Guard} {s : σ}
    {body body' : σ → Option (Except Error α × σ)} {r : Except Error α × σ}
    (hbody : ∀ s r, body s = some r → body' s = some r) (h : guard.run s body = some r) :
    guard.run s body' = some r := by
  unfold run at *
  split at h
  . exact h
  . split at h
    . cases h
    . next hsome => rw [hbody _ _ hsome]; exact h

end Guard

namespace State

def scope {α : Type} (s : State) (b : Bindings)
    (body : State → Option (Except Error α × State)) : Option (Except Error α × State) :=
  (Guard.scope b).run s body

def parentView {α : Type} (s : State) (body : State → Option (Except Error α × State)) :
    Option (Except Error α × State) :=
  Guard.parentView.run s body

theorem scope_mono {α : Type} {s : State} {b : Bindings}
    {body body' : State → Option (Except Error α × State)} {r : Except Error α × State}
    (hbody : ∀ s r, body s = some r → body' s = some r) (h : s.scope b body = some r) :
    s.scope b body' = some r :=
  Guard.run_mono hbody h

theorem parentView_mono {α : Type} {s : State}
    {body body' : State → Option (Except Error α × State)} {r : Except Error α × State}
    (hbody : ∀ s r, body s = some r → body' s = some r) (h : s.parentView body = some r) :
    s.parentView body' = some r :=
  Guard.run_mono hbody h

end State

end SqlExpr
