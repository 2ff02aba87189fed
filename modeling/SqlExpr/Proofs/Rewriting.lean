import SqlExpr.Proofs.Replacement
import SqlExpr.Proofs.Scopes

/-!
This module contains the proof that a node that is replaced is compiled as its replacement would
have been in its place (`Compiler.compiles_as_replacement`). It holds for compilers whose handlers
remove only frames that they have pushed themselves (`Compiler.PopsOwnFrames`). Such compilers leave
as many frames as they find (`Compiler.keepsDepth_compileAt`), so neither the frame of the replaced
node nor the guards around its replacement leave a trace.
-/

namespace SqlExpr

namespace Program

/--
Whether the stack never gets lower than `base` frames in a run of a program. A frame that is hidden
for a time is not removed, so a view that hides one of the `base` frames may not get lower than the
others.
-/
def StaysAbove (c : Compiler) (compile : CompileFn) (base : Nat) : Program → State → Prop
  | .done _, _ => True
  | .fail _, _ => True
  | .perform op next, s =>
    base ≤ (op.apply s).2.depth ∧
      (next (op.apply s).1).StaysAbove c compile base (op.apply s).2
  | .compile node demand next, s =>
    ∀ result s', compile.withDemand node demand s = some (result, s') →
      (next result).StaysAbove c compile base s'
  | .compileAlone node next, s =>
    ∀ result, compile.alone node = some result → (next result).StaysAbove c compile base s
  | .handles kind next, s => (next (c.handles kind)).StaysAbove c compile base s
  | .dialect next, s => (next c.dialect).StaysAbove c compile base s
  | .within (.scope b) body next, s =>
    (∀ inside, s.push b = .ok inside → body.StaysAbove c compile base inside) ∧
      ∀ result s', s.scope b (body.run c compile) = some (result, s') →
        (next result).StaysAbove c compile base s'
  | .within .parentView body next, s =>
    (∀ view, s.pop = .ok view → body.StaysAbove c compile (min base view.depth) view) ∧
      ∀ result s', s.parentView (body.run c compile) = some (result, s') →
        (next result).StaysAbove c compile base s'

end Program

namespace CompileFn

/--
Whether compiling a node always leaves as many frames as there were.
-/
def KeepsDepth (compile : CompileFn) : Prop :=
  ∀ node p s result s', compile node p s = some (result, s') → s'.depth = s.depth

theorem KeepsDepth.withDemand {compile : CompileFn} (h : compile.KeepsDepth) {node : Node}
    {demand : Demand} {s s' : State} {result : Except Error String}
    (hcompile : compile.withDemand node demand s = some (result, s')) : s'.depth = s.depth := by
  unfold CompileFn.withDemand at hcompile
  split at hcompile
  . cases hcompile
    rfl
  . apply h _ _ _ _ _ hcompile

end CompileFn

namespace State

variable {α : Type} {base : Nat} {s s' : State} {result : Except Error α}

theorem le_depth_scope {b : Bindings} {body : State → Option (Except Error α × State)}
    (hs : base ≤ s.depth)
    (hbody : ∀ inside r after, s.push b = .ok inside → body inside = some (r, after) →
      base ≤ after.depth)
    (h : s.scope b body = some (result, s')) : base ≤ s'.depth := by
  rw [scope_eq] at h
  split at h
  . cases h
    exact hs
  . next inside hpush =>
    split at h
    . cases h
    . next after hafter =>
      cases h
      have hle := hbody inside _ after hpush hafter
      rw [depth_cutTo after s.depth_pos]
      omega

theorem le_depth_parentView {body : State → Option (Except Error α × State)} (hs : base ≤ s.depth)
    (hbody : ∀ view r after, s.pop = .ok view → body view = some (r, after) →
      min base view.depth ≤ after.depth)
    (h : s.parentView body = some (result, s')) : base ≤ s'.depth := by
  rw [parentView_eq] at h
  split at h
  . cases h
    exact hs
  . next hidden view =>
    split at h
    . cases h
    . next after hafter =>
      cases h
      have hle := hbody view _ after rfl hafter
      simp only [depth] at hs ⊢
      rw [depth_cutTo after view.depth_pos]
      omega

end State

theorem Program.le_depth_of_run {c : Compiler} {compile : CompileFn} {program : Program}
    {base : Nat} {s s' : State} {result : Except Error Fragment} (hcompile : compile.KeepsDepth)
    (hs : base ≤ s.depth) (hstays : program.StaysAbove c compile base s)
    (h : program.run c compile s = some (result, s')) : base ≤ s'.depth := by
  induction program generalizing base s s' result with
  | done fragment =>
    cases h
    exact hs
  | fail e =>
    cases h
    exact hs
  | perform op next ih => apply ih _ hstays.1 hstays.2 h
  | compile node demand next ih =>
    simp only [run] at h
    split at h
    . cases h
    . next result' between hnested =>
      rw [← hcompile.withDemand hnested] at hs
      apply ih _ hs (hstays _ _ hnested) h
  | compileAlone node next ih =>
    simp only [run] at h
    split at h
    . cases h
    . next result' halone => apply ih _ hs (hstays _ halone) h
  | handles kind next ih => apply ih _ hs hstays h
  | dialect next ih => apply ih _ hs hstays h
  | within guard body next ihbody ih =>
    simp only [run] at h
    split at h
    . cases h
    . next result' between hguard =>
      cases guard with
      | scope b =>
        refine ih _ ?_ (hstays.2 _ _ hguard) h
        apply State.le_depth_scope hs _ hguard
        intro inside r after hpush hbody
        apply ihbody _ (hstays.1 inside hpush) hbody
        have hdepth := State.depth_push hpush
        omega
      | parentView =>
        refine ih _ ?_ (hstays.2 _ _ hguard) h
        apply State.le_depth_parentView hs _ hguard
        intro view r after hpop hbody
        apply ihbody (Nat.min_le_right _ _) (hstays.1 view hpop) hbody

namespace Compiler

variable {c : Compiler}

/--
Whether no handler, in no call, removes a frame that was on the stack when it was called.
-/
def PopsOwnFrames (c : Compiler) : Prop :=
  ∀ node handler depth s, c.lookup? node.kind = some handler →
    (handler node).StaysAbove c (c.compileAt depth) (s.depth + 1)
      (.inner (State.demandFrame node.precedence) s)

theorem keepsDepth_compileAt (h : c.PopsOwnFrames) (depth : Nat) :
    (c.compileAt depth).KeepsDepth := by
  induction depth with
  | zero =>
    intro node p s result s' hcompile
    cases hcompile
  | succ depth ih =>
    intro node p s result s' hcompile
    rcases compileAt_eq_some hcompile with heq | ⟨handler, inside, after, hlookup, hpush, heq, hrun⟩
    . rw [heq]
    cases hpush
    have hle {r : Except Error Fragment} {t : State}
        (hrun : (handler node).run c (c.compileAt depth)
          (.inner (State.demandFrame node.precedence) s) = some (r, t)) : s.depth + 1 ≤ t.depth :=
      Program.le_depth_of_run ih (Nat.le_refl _) (h node handler depth s hlookup) hrun
    have hafter : s.depth ≤ after.depth := by
      rcases hrun with ⟨r, hrun⟩ | ⟨replacement, between, hrun, hview⟩
      . have hdepth := hle hrun
        omega
      . have hdepth := hle hrun
        apply State.le_depth_parentView (by omega) _ hview
        intro view r t hpop hreplaced
        rw [ih _ _ _ _ _ hreplaced]
        apply Nat.min_le_right
    rw [heq, State.depth_cutTo after s.depth_pos]
    omega

/--
Whether the handler of the first node replaces it by the second one and leaves no more frames than
it was called with.
-/
def ReplacesInPlace (c : Compiler) (item item' : Node × State) : Prop :=
  c.Replaces item item' ∧ item'.2.depth = item.2.depth

theorem compileAt_of_run_replace {node replacement : Node} {handler : Handler} {depth : Nat}
    {s caller : State} {own : Frame} (hkeeps : (c.compileAt depth).KeepsDepth)
    (hlookup : c.lookup? node.kind = some handler)
    (hrun : (handler node).run c (c.compileAt depth) (.inner (State.demandFrame node.precedence) s)
      = some (.ok (.replace replacement), .inner own caller))
    (hdepth : caller.depth = s.depth) (p : Precedence) :
    c.compileAt (depth + 1) node p s = c.compileAt depth replacement p caller := by
  rw [compileAt_of_run_inner hlookup hrun]
  cases hreplaced : c.compileAt depth replacement p caller with
  | none => rfl
  | some r =>
    -- The guards cut off nothing, because compiling the replacement keeps the depth.
    have hkept : r.2.depth = caller.depth := hkeeps _ _ _ _ _ hreplaced
    have hcut : r.2.cutTo caller.depth = r.2 := State.cutTo_of_depth_le (by omega)
    have hinner := State.cutTo_inner (hkept.trans hdepth) own
    simp [hcut, hinner]

theorem compiles_iff_of_replaces (h : c.PopsOwnFrames) {item item' : Node × State}
    (hreplaces : c.ReplacesInPlace item item') (p : Precedence) (r : Except Error String × State) :
    c.Compiles item.1 p item.2 r ↔ c.Compiles item'.1 p item'.2 r := by
  obtain ⟨node, s⟩ := item
  obtain ⟨replacement, caller⟩ := item'
  obtain ⟨⟨after, ⟨depth, handler, hlookup, hrun⟩, hpop⟩, hdepth⟩ := hreplaces
  cases after with
  | root frame => cases hpop
  | inner own outer =>
    cases hpop
    -- The run of the handler is the same at any greater depth.
    have hdeep {deep : Nat} (hle : depth ≤ deep) :
        c.compileAt (deep + 1) node p s = c.compileAt deep replacement p caller :=
      compileAt_of_run_replace (keepsDepth_compileAt h deep) hlookup
        (Program.run_mono (c.compileAt_mono hle) hrun) hdepth p
    constructor
    . intro ⟨depth', hcompile⟩
      refine ⟨max depth depth', ?_⟩
      rw [← hdeep (Nat.le_max_left _ _)]
      apply c.compileAt_mono (by omega) _ _ _ _ hcompile
    . intro ⟨depth', hcompile⟩
      refine ⟨max depth depth' + 1, ?_⟩
      rw [hdeep (Nat.le_max_left _ _)]
      apply c.compileAt_mono (Nat.le_max_right _ _) _ _ _ _ hcompile

theorem compiles_iff_of_chain (h : c.PopsOwnFrames) {item last : Node × State}
    (hchain : Relation.ReflTransGen c.ReplacesInPlace item last) (p : Precedence)
    (r : Except Error String × State) :
    c.Compiles item.1 p item.2 r ↔ c.Compiles last.1 p last.2 r := by
  induction hchain with
  | refl => rfl
  | tail _ hlast ih => rw [ih, compiles_iff_of_replaces h hlast]

/--
A node that is replaced compiles as its replacement does, with the same demand, in the frames of the
caller as the handler left them. So does a chain of replacements: the nodes before the last one have
no effect but on these frames, and only the precedence of the last one decides whether there is a
pair of brackets around its text.
-/
theorem compiles_as_replacement (c : Compiler) (h : c.PopsOwnFrames) :
    (∀ node s replacement caller, c.ReplacesInPlace (node, s) (replacement, caller) →
      ∀ p r, c.Compiles node p s r ↔ c.Compiles replacement p caller r) ∧
    (∀ node s last caller,
      Relation.ReflTransGen c.ReplacesInPlace (node, s) (last, caller) →
      (∀ p r, c.Compiles node p s r ↔ c.Compiles last p caller r) ∧
      (∀ node' s', Relation.ReflTransGen c.ReplacesInPlace (node', s') (last, caller) →
        ∀ p r, c.Compiles node p s r ↔ c.Compiles node' p s' r) ∧
      ∀ text after, c.Makes last caller (.sql text) after →
        ∀ p, c.Compiles node p s
          (.ok (if last.precedence < p then "(" ++ text ++ ")" else text),
            after.cutTo caller.depth)) := by
  constructor
  . intro node s replacement caller hreplaces p r
    exact compiles_iff_of_replaces h hreplaces p r
  . intro node s last caller hchain
    refine ⟨compiles_iff_of_chain h hchain, ?_, ?_⟩
    . intro node' s' hchain' p r
      rw [compiles_iff_of_chain h hchain, compiles_iff_of_chain h hchain']
    . intro text after hmakes p
      rw [compiles_iff_of_chain h hchain]
      exact hmakes.compiles p

/--
A column that is replaced by a table, and the table by a node that binds loosely. The first handler
writes to the caller's frames, and pushes a frame that it pops again.
-/
theorem compiles_as_replacement_sum :
    let sum := Node.foreign (.root "sum" none) (.leftAssoc Rank.additive) none []
    let toTable : Handler := fun _ =>
      .perform (.set Attribute.parametersName (.values [.null])) fun _ =>
      .perform (.push .empty) fun _ =>
      .perform .pop fun _ =>
      .done (.replace (.table "t"))
    let toSum : Handler := fun _ => .done (.replace sum)
    let written : Handler := fun _ => .done (.sql "a + b")
    let c := ((empty.register [Kind.Standard.column] toTable).register [Kind.Standard.table]
      toSum).register [sum.kind] written
    let left := State.new.set Attribute.parametersName (.values [.null])
    c.PopsOwnFrames ∧
      Relation.ReflTransGen c.ReplacesInPlace (.column none "c", .new) (sum, left) ∧
      c.Makes sum left (.sql "a + b") (.inner (State.demandFrame sum.precedence) left) ∧
      (∀ p r, c.Compiles (.column none "c") p .new r ↔ c.Compiles sum p left r) ∧
      c.Compiles (.column none "c") (.leftAssoc Rank.multiplicative) .new
        (.ok "(a + b)", left) := by
  intro sum toTable toSum written c left
  have hpops : c.PopsOwnFrames := by
    intro node handler depth s hlookup
    obtain ⟨layer, hlayer, hfound⟩ := List.exists_of_findSome?_eq_some hlookup
    obtain ⟨ancestor, _, hget⟩ := List.exists_of_findSome?_eq_some hfound
    have hmem := NameMap.mem_entries_of_get? hget
    cases List.mem_singleton.1 hlayer
    change _ ∈ [("column", toTable), ("table", toSum), ("sum", written)] at hmem
    simp only [List.mem_cons, Prod.mk.injEq, List.not_mem_nil, or_false] at hmem
    rcases hmem with ⟨_, rfl⟩ | ⟨_, rfl⟩ | ⟨_, rfl⟩
    . refine ⟨?_, ?_, ?_, trivial⟩ <;>
        simp [Operation.apply_eq, Operation.result, State.push, State.copyInto, State.pop,
          State.depth, Bindings.empty]
    . trivial
    . trivial
  have htable : c.ReplacesInPlace (.column none "c", .new) (.table "t", left) :=
    ⟨⟨_, ⟨0, toTable, rfl, rfl⟩, rfl⟩, rfl⟩
  have hsum : c.ReplacesInPlace (.table "t", left) (sum, left) :=
    ⟨⟨_, ⟨0, toSum, rfl, rfl⟩, rfl⟩, rfl⟩
  have hchain := (Relation.ReflTransGen.single htable).tail hsum
  have hmakes : c.Makes sum left (.sql "a + b") (.inner (State.demandFrame sum.precedence) left) :=
    ⟨0, written, rfl, rfl⟩
  obtain ⟨hsame, _, htext⟩ := (compiles_as_replacement c hpops).2 _ _ _ _ hchain
  have hlt : sum.precedence < .leftAssoc Rank.multiplicative := by decide
  have hwritten := htext _ _ hmakes (.leftAssoc Rank.multiplicative)
  rw [if_pos hlt] at hwritten
  exact ⟨hpops, hchain, hmakes, hsame, hwritten⟩

end Compiler

end SqlExpr
