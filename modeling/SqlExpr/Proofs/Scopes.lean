import SqlExpr.Compiler.Standard
import SqlExpr.Proofs.State.Above
import SqlExpr.Proofs.State.Guard

/-!
This module contains what any compiler leaves of the frames that a node is compiled under, whatever
its handlers do: there are never more of them (`Compiler.compileAt_releases`), and if no handler
removes frames that it was called with, they are all there, bind the same names and demand the same
precedence as before.
-/

namespace SqlExpr

namespace Program

/--
Whether a run of a program never removes one of the innermost `base` frames from the root, and opens
no view of the parent frames. Compilations on the way have to satisfy `keeps`, but for those in a
state of their own.
-/
def KeepsFrames (c : Compiler) (compile : CompileFn) (keeps : Node → Precedence → State → Prop)
    (base : Nat) : Program → State → Prop
  | .done _, _ => True
  | .fail _, _ => True
  | .perform op next, s =>
    (op = .pop → base < s.depth) ∧
      (next (op.apply s).1).KeepsFrames c compile keeps base (op.apply s).2
  | .compile node demand next, s =>
    (∀ p, demand.resolve s = .ok p → keeps node p s) ∧
      ∀ result s', compile.withDemand node demand s = some (result, s') →
        (next result).KeepsFrames c compile keeps base s'
  | .compileAlone node next, s =>
    ∀ result, compile.alone node = some result → (next result).KeepsFrames c compile keeps base s
  | .handles kind next, s => (next (c.handles kind)).KeepsFrames c compile keeps base s
  | .dialect next, s => (next c.dialect).KeepsFrames c compile keeps base s
  | .within (.scope b) body next, s =>
    (∀ inside, s.push b = .ok inside → body.KeepsFrames c compile keeps base inside) ∧
      ∀ result s', s.scope b (body.run c compile) = some (result, s') →
        (next result).KeepsFrames c compile keeps base s'
  | .within .parentView _ _, _ => False

end Program

namespace CompileFn

def LeavesSimilar (compile : CompileFn) (keeps : Node → Precedence → State → Prop) : Prop :=
  ∀ node p s result s', keeps node p s → compile node p s = some (result, s') → s.Similar s'

end CompileFn

namespace Program

variable {c : Compiler} {compile : CompileFn} {keeps : Node → Precedence → State → Prop}

theorem above_of_run {program : Program} {caller s s' : State} {result : Except Error Fragment}
    (hkeeps : program.KeepsFrames c compile keeps (caller.depth + 1) s)
    (hcompile : compile.LeavesSimilar keeps) (habove : caller.Above s)
    (h : program.run c compile s = some (result, s')) : caller.Above s' := by
  -- What carries the induction is that every state on the way stands above the caller.
  induction program generalizing s s' result with
  | done fragment =>
    cases h
    exact habove
  | fail e =>
    cases h
    exact habove
  | perform op next ih =>
    apply ih _ hkeeps.2 (habove.apply hkeeps.1) h
  | compile node demand next ih =>
    simp only [run] at h
    split at h
    . cases h
    . next result' between hnested =>
      apply ih _ (hkeeps.2 _ _ hnested) _ h
      unfold CompileFn.withDemand at hnested
      split at hnested
      . cases hnested
        exact habove
      . next p hresolve =>
        apply habove.of_similar
        apply hcompile _ _ _ _ _ (hkeeps.1 p hresolve) hnested
  | compileAlone node next ih =>
    simp only [run] at h
    split at h
    . cases h
    . next result' halone => apply ih _ (hkeeps _ halone) habove h
  | handles kind next ih => apply ih _ hkeeps habove h
  | dialect next ih => apply ih _ hkeeps habove h
  | within guard body next ihbody ih =>
    cases guard with
    | parentView => cases hkeeps
    | scope b =>
      simp only [run] at h
      split at h
      . cases h
      . next result' between hscope =>
        apply ih _ (hkeeps.2 _ _ hscope) _ h
        have hscope : s.scope b _ = _ := hscope
        rw [State.scope_eq] at hscope
        split at hscope
        . cases hscope
          exact habove
        . next inside hpush =>
          split at hscope
          . cases hscope
          . next after hbody =>
            cases hscope
            -- Frames that the body leaves behind are cut off, down to those before the scope.
            have hinside := habove.push hpush
            apply State.Above.cutTo _ habove.depth_lt
            apply ihbody (hkeeps.1 _ hpush) hinside hbody

end Program

namespace Compiler

variable {c : Compiler} {depth : Nat} {node : Node} {p : Precedence} {s s' : State}
  {result : Except Error String}

/--
Whether no handler that runs while a node is compiled removes a frame that was on the stack when it
was called, or opens a view of the parent frames. A replacement is compiled without the innermost
frame.
-/
def KeepsFrames (c : Compiler) : Nat → Node → Precedence → State → Prop
  | 0, _, _, _ => True
  | depth + 1, node, demanded, s =>
    ∀ handler inside, c.lookup? node.kind = some handler →
      s.push (Bindings.empty.precedence node.precedence) = .ok inside →
      (handler node).KeepsFrames c (c.compileAt depth) (c.KeepsFrames depth) inside.depth inside ∧
      ∀ replacement after view,
        (handler node).run c (c.compileAt depth) inside = some (.ok (.replace replacement), after) →
        after.pop = .ok view → c.KeepsFrames depth replacement demanded view

theorem compileAt_eq_some (h : c.compileAt (depth + 1) node p s = some (result, s')) :
    s' = s ∨
      ∃ handler inside after, c.lookup? node.kind = some handler ∧
        s.push (Bindings.empty.precedence node.precedence) = .ok inside ∧
        s' = after.cutTo s.depth ∧
        ((∃ r, (handler node).run c (c.compileAt depth) inside = some (r, after)) ∨
          ∃ replacement between, (handler node).run c (c.compileAt depth) inside
              = some (.ok (.replace replacement), between) ∧
            between.parentView (fun view => c.compileAt depth replacement p view)
              = some (result, after)) := by
  unfold compileAt at h
  split at h
  . cases h
    exact .inl rfl
  . next handler hlookup =>
    rw [State.scope_eq] at h
    split at h
    . cases h
      exact .inl rfl
    . next inside hpush =>
      right
      split at h
      . cases h
      . next result' after hbody =>
        cases h
        refine ⟨handler, inside, after, hlookup, hpush, rfl, ?_⟩
        split at hbody
        . cases hbody
        . next hrun =>
          cases hbody
          exact .inl ⟨_, hrun⟩
        . next hrun =>
          cases hbody
          exact .inl ⟨_, hrun⟩
        . next hrun => exact .inr ⟨_, _, hrun, hbody⟩

theorem depth_compileAt_le (h : c.compileAt depth node p s = some (result, s')) :
    s'.depth ≤ s.depth := by
  cases depth with
  | zero => cases h
  | succ depth =>
    rcases compileAt_eq_some h with heq | ⟨_, _, _, _, _, heq, _⟩
    . apply Nat.le_of_eq
      rw [heq]
    . rw [heq, State.depth_cutTo _ s.depth_pos]
      apply Nat.min_le_right

theorem similar_of_parentView {caller s s' : State} {α : Type}
    {body : State → Option (Except Error α × State)} {result : Except Error α}
    (habove : caller.Above s)
    (hbody : ∀ view r after, s.pop = .ok view → body view = some (r, after) → view.Similar after)
    (h : s.parentView body = some (result, s')) : s.Similar s' := by
  rw [State.parentView_eq] at h
  split at h
  . cases habove
  . next hidden view =>
    split at h
    . cases h
    . next after hview =>
      cases h
      have hsimilar := hbody view _ after rfl hview
      apply State.Similar.inner (.refl hidden)
      rw [State.cutTo_of_depth_le (Nat.le_of_eq hsimilar.depth)]
      exact hsimilar

theorem above_of_push {own : Precedence} {inside : State}
    (h : s.push (Bindings.empty.precedence own) = .ok inside) :
    s.Above inside ∧ inside.depth = s.depth + 1 := by
  cases h
  exact ⟨.own rfl (.refl s), rfl⟩

theorem leavesSimilar (c : Compiler) (depth : Nat) :
    (c.compileAt depth).LeavesSimilar (c.KeepsFrames depth) := by
  induction depth with
  | zero =>
    intro node p s result s' _ h
    cases h
  | succ depth ih =>
    intro node p s result s' hkeeps h
    rcases compileAt_eq_some h with heq | ⟨handler, inside, after, hlookup, hpush, heq, hrun⟩
    . rw [heq]
      exact .refl s
    obtain ⟨hinside, hdepth⟩ := above_of_push hpush
    obtain ⟨hhandler, hreplace⟩ := hkeeps handler inside hlookup hpush
    rw [hdepth] at hhandler
    -- The frame pushed for the handler binds what is demanded, so writes to `precedence` end there.
    rw [heq]
    apply State.Above.similar_cutTo
    rcases hrun with ⟨r, hrun⟩ | ⟨replacement, between, hrun, hview⟩
    . apply Program.above_of_run hhandler ih hinside hrun
    . have hbetween := Program.above_of_run hhandler ih hinside hrun
      apply hbetween.of_similar
      apply similar_of_parentView hbetween _ hview
      intro view r after hpop hcompile
      apply ih _ _ _ _ _ (hreplace replacement between view hrun hpop) hcompile

/--
Whatever handlers do, compiling leaves the root and no more frames than there were. If they keep the
frames that they are called with, exactly the frames of the caller are left, with the same names, the
same bindings of `precedence` and so the same demand on what is compiled next.
-/
theorem compileAt_releases (c : Compiler) {depth : Nat} {node : Node} {p : Precedence}
    {s s' : State} {result : Except Error String}
    (h : c.compileAt depth node p s = some (result, s')) :
    1 ≤ s'.depth ∧ s'.depth ≤ s.depth ∧
      (c.KeepsFrames depth node p s →
        s'.depth = s.depth ∧
        List.Forall₂ (fun frame frame' => frame'.names = frame.names ∧
          frame'.get? Attribute.precedenceName = frame.get? Attribute.precedenceName)
          s.frames s'.frames ∧
        s'.precedence = s.precedence) := by
  refine ⟨s'.depth_pos, depth_compileAt_le h, ?_⟩
  intro hkeeps
  have hsimilar := leavesSimilar c depth node p s result s' hkeeps h
  exact ⟨hsimilar.depth, hsimilar.frames, hsimilar.precedence⟩

/--
A handler that leaves a frame behind and writes to `precedence`, under a call and under a handler
that replaces its node.
-/
theorem compileAt_releases_leak :
    let leak : Handler := fun _ =>
      .perform (.push .empty) fun _ =>
      .perform (.set Attribute.precedenceName (.text "none")) fun _ =>
      .done (.sql "leaked")
    let swap : Handler := fun _ =>
      .perform (.push .empty) fun _ =>
      .done (.replace (.table "t"))
    let c := (standard.register [Kind.Standard.table] leak).register [Kind.Standard.column] swap
    ∃ s', c.compileAt 3 (.callNamed "f" [.table "t", .column none "c"]) .loosest .new
        = some (.ok "f(leaked, leaked)", s') ∧
      s'.depth = 1 ∧ s'.precedence = .ok .loosest := by
  intro leak swap c
  refine ⟨_, rfl, ?_⟩
  have hleak (depth : Nat) (p : Precedence) (s : State) : c.KeepsFrames depth (.table "t") p s := by
    cases depth with
    | zero => trivial
    | succ depth =>
      intro handler inside hlookup _
      cases (show c.lookup? Kind.Standard.table = some leak from rfl).symm.trans hlookup
      refine ⟨⟨nofun, nofun, trivial⟩, ?_⟩
      intro replacement after view hrun
      cases hrun
  have hswap (depth : Nat) (p : Precedence) (s : State) :
      c.KeepsFrames depth (.column none "c") p s := by
    cases depth with
    | zero => trivial
    | succ depth =>
      intro handler inside hlookup _
      cases (show c.lookup? Kind.Standard.column = some swap from rfl).symm.trans hlookup
      refine ⟨⟨nofun, trivial⟩, ?_⟩
      intro replacement after view hrun hpop
      cases hrun
      apply hleak
  have hcall : c.KeepsFrames 3 (.callNamed "f" [.table "t", .column none "c"]) .loosest .new := by
    intro handler inside hlookup hpush
    cases (show c.lookup? Kind.Standard.function = some Handler.call from rfl).symm.trans hlookup
    cases hpush
    refine ⟨⟨fun p _ => hleak _ _ _, ?_⟩, ?_⟩
    . intro r s' h
      cases h
      refine ⟨fun p _ => hswap _ _ _, ?_⟩
      intro r s' h
      cases h
      trivial
    . intro replacement after view hrun
      cases hrun
  obtain ⟨_, _, hkept⟩ := compileAt_releases c (rfl : c.compileAt 3 (.callNamed "f"
    [.table "t", .column none "c"]) .loosest .new = some (.ok "f(leaked, leaked)", _))
  obtain ⟨hdepth, _, hprecedence⟩ := hkept hcall
  exact ⟨hdepth, hprecedence⟩

end Compiler

end SqlExpr
