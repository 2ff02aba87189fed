import SqlExpr.Compiler.Standard
import SqlExpr.Node.Build
import SqlExpr.Proofs.Dispatch

/-!
This module contains the proof that nothing of a compiler matters for compiling but its dialect and
which handler it has for each kind (`Compiler.compiles_as_resolved`). How its tables are spread over
itself and its ancestors does not matter, because handlers run against the compiler that a
compilation started with, in whosever table they were found.
-/

namespace SqlExpr

namespace Program

theorem run_congr {a b : Compiler} (hlookup : ∀ kind, a.lookup? kind = b.lookup? kind)
    (hdialect : a.dialect = b.dialect) (compile : CompileFn) (program : Program) (s : State) :
    program.run a compile s = program.run b compile s := by
  induction program generalizing s with
  | done fragment => rfl
  | fail e => rfl
  | perform op next ih => apply ih
  | compile node demand next ih =>
    simp only [run]
    split
    . rfl
    . apply ih
  | compileAlone node next ih =>
    simp only [run]
    split
    . rfl
    . apply ih
  | handles kind next ih =>
    have hhandles : a.handles kind = b.handles kind := by
      unfold Compiler.handles
      rw [hlookup]
    simp only [run, hhandles]
    apply ih
  | dialect next ih =>
    simp only [run, hdialect]
    apply ih
  | within guard body next ihbody ih =>
    simp only [run, funext ihbody]
    split
    . rfl
    . apply ih

end Program

theorem Layer.lookup?_congr {layer layer' : Layer} {lineage : List Kind}
    (h : ∀ kind ∈ lineage, layer.handlers.get? kind.name = layer'.handlers.get? kind.name) :
    layer.lookup? lineage = layer'.lookup? lineage := by
  unfold lookup?
  induction lineage with
  | nil => rfl
  | cons kind lineage ih =>
    rw [List.forall_mem_cons] at h
    rw [List.findSome?_cons, List.findSome?_cons, h.1, ih h.2]

namespace Compiler

variable {a b c c' : Compiler}

theorem compileAt_congr (hlookup : ∀ kind, a.lookup? kind = b.lookup? kind)
    (hdialect : a.dialect = b.dialect) (depth : Nat) : a.compileAt depth = b.compileAt depth := by
  induction depth with
  | zero => rfl
  | succ depth ih =>
    funext node p s
    simp only [compileAt, hlookup, ih, Program.run_congr hlookup hdialect]

theorem lookup?_eq_or (c : Compiler) (kind : Kind) :
    c.lookup? kind = (c.own.lookup? kind.lineage).or (c.parent?.bind (·.lookup? kind)) := by
  obtain ⟨own, ancestors⟩ := c
  simp only [lookup?, layers, List.findSome?_cons]
  cases own.lookup? kind.lineage with
  | some handler => rfl
  | none =>
    cases ancestors with
    | nil => rfl
    | cons parent rest => rfl

theorem lookup?_of_own {kind : Kind} {handler : Handler}
    (h : c.own.lookup? kind.lineage = some handler) : c.lookup? kind = some handler := by
  rw [lookup?_eq_or, h, Option.some_or]

theorem lookup?_of_parent {parent : Compiler} (hparent : c.parent? = some parent) {kind : Kind}
    (h : c.own.lookup? kind.lineage = none) : c.lookup? kind = parent.lookup? kind := by
  rw [lookup?_eq_or, h, hparent, Option.none_or, Option.bind_some]

theorem lookup?_withParent (c : Compiler) (kind : Kind) :
    c.withParent.lookup? kind = c.lookup? kind := by
  apply lookup?_of_parent (show c.withParent.parent? = some c from rfl)
  unfold Layer.lookup?
  rw [List.findSome?_eq_none_iff]
  intro ancestor hmem
  rfl

theorem lookup?_congr_of_own {parent parent' : Compiler} (hparent : c.parent? = some parent)
    (hparent' : c'.parent? = some parent') (hown : c.own = c'.own)
    (h : ∀ kind, c.own.lookup? kind.lineage = none → parent.lookup? kind = parent'.lookup? kind)
    (kind : Kind) : c.lookup? kind = c'.lookup? kind := by
  cases hlookup : c.own.lookup? kind.lineage with
  | some handler =>
    rw [lookup?_of_own hlookup]
    rw [hown] at hlookup
    rw [lookup?_of_own hlookup]
  | none =>
    rw [lookup?_of_parent hparent hlookup, h kind hlookup]
    rw [hown] at hlookup
    rw [lookup?_of_parent hparent' hlookup]

/--
Compilers of one dialect that have the same handler for every kind compile alike, however their
tables are composed. So a compiler without registrations of its own compiles as its parent does. A
handler of an ancestor runs against the compiler that was called: what an ancestor has for kinds
that the compiler has handlers for, and in which dialect, does not matter at any depth.
-/
theorem compiles_as_resolved :
    (∀ a b : Compiler, (∀ kind, a.lookup? kind = b.lookup? kind) → a.dialect = b.dialect →
      ∀ depth node p s, a.compileAt depth node p s = b.compileAt depth node p s) ∧
    (∀ c : Compiler, (∀ depth node p s, c.withParent.compileAt depth node p s
        = c.compileAt depth node p s) ∧
      (∀ depth node, c.withParent.compile depth node = c.compile depth node) ∧
      (∀ kind, c.withParent.handles kind = c.handles kind) ∧ c.withParent.dialect = c.dialect) ∧
    (∀ (c : Compiler) (node : Node) (handler : Handler),
      (c.own.lookup? node.kind.lineage = some handler ∨
        c.own.lookup? node.kind.lineage = none ∧
          ∃ parent, c.parent? = some parent ∧ parent.lookup? node.kind = some handler) →
      ∀ depth p s, c.compileAt (depth + 1) node p s = c.serveWith handler depth node p s) ∧
    (∀ c c' parent parent' : Compiler, c.parent? = some parent → c'.parent? = some parent' →
      c.own = c'.own →
      (∀ kind, c.own.lookup? kind.lineage = none → parent.lookup? kind = parent'.lookup? kind) →
      ∀ depth node p s, c.compileAt depth node p s = c'.compileAt depth node p s) := by
  refine ⟨?_, ?_, ?_, ?_⟩
  . intro a b hlookup hdialect depth node p s
    rw [compileAt_congr hlookup hdialect]
  . intro c
    have hcompile := compileAt_congr c.lookup?_withParent rfl
    refine ⟨?_, ?_, ?_, rfl⟩
    . intro depth node p s
      rw [hcompile]
    . intro depth node
      unfold compile
      rw [hcompile]
    . intro kind
      unfold handles
      rw [lookup?_withParent]
  . intro c node handler hfound depth p s
    apply compileAt_of_lookup?
    rcases hfound with hown | ⟨hown, parent, hparent, hlookup⟩
    . apply lookup?_of_own hown
    . rw [lookup?_of_parent hparent hown, hlookup]
  . intro c c' parent parent' hparent hparent' hown h depth node p s
    have hdialect : c.dialect = c'.dialect := congrArg Layer.dialect hown
    rw [compileAt_congr (lookup?_congr_of_own hparent hparent' hown h) hdialect]

/--
The handlers of the standard compiler below a compiler that writes columns in its own way and in its
own dialect. Another dialect and another handler for columns in the parent change nothing.
-/
theorem compiles_as_resolved_quoted :
    let dollar : Dialect := ⟨"dollar", "$", "NULL"⟩
    let quoted : Handler := fun node =>
      .done (.sql ("<" ++ (node.name?.getD "") ++ ">"))
    let failing : Handler := fun node => .fail (.noHandler node.kind.name)
    let parent := standard.withDialect ⟨"colon", ":", "nil"⟩
    let parent' := standard.register [Kind.Standard.column] failing
    let c := (parent.withParent.withDialect dollar).register [Kind.Standard.column] quoted
    let c' := (parent'.withParent.withDialect dollar).register [Kind.Standard.column] quoted
    let node := Node.eq (.col "name") (.scalar (.text "x"))
    (∀ kind, c.own.lookup? kind.lineage = none → parent.lookup? kind = parent'.lookup? kind) ∧
      (∀ kind, c.lookup? kind = c'.lookup? kind) ∧
      c.compileAt 4 node .loosest .new = c'.compileAt 4 node .loosest .new ∧
      c.withParent.compileAt 4 node .loosest .new = c'.compileAt 4 node .loosest .new ∧
      c.compileAt 4 node .loosest .new = c.serveWith Handler.equality 3 node .loosest .new ∧
      ∃ s, c.compileAt 4 node .loosest .new = some (.ok "<name> = $", s) := by
  intro dollar quoted failing parent parent' c c' node
  have hparent : ∀ kind, c.own.lookup? kind.lineage = none →
      parent.lookup? kind = parent'.lookup? kind := by
    intro kind hown
    unfold Layer.lookup? at hown
    rw [List.findSome?_eq_none_iff] at hown
    have hlayer : parent.own.lookup? kind.lineage = parent'.own.lookup? kind.lineage := by
      apply Layer.lookup?_congr
      intro ancestor hmem
      have hnone := hown ancestor hmem
      -- What the compiler handles itself is not looked up in its parent.
      simp only [c, register, NameMap.get?_insertAll_kinds] at hnone
      split at hnone
      . cases hnone
      . next hname =>
        simp only [parent', register, NameMap.get?_insertAll_kinds, if_neg hname]
        rfl
    unfold lookup? layers
    rw [List.findSome?_cons, List.findSome?_cons, hlayer]
    rfl
  have hlookup : ∀ kind, c.lookup? kind = c'.lookup? kind :=
    lookup?_congr_of_own rfl rfl rfl hparent
  have hsame := compiles_as_resolved.2.2.2 c c' parent parent' rfl rfl rfl hparent 4 node
    .loosest .new
  have hresolved := compiles_as_resolved.1 c c' hlookup rfl 4 node .loosest .new
  refine ⟨hparent, hlookup, hresolved, ?_, ?_, ?_⟩
  . rw [(compiles_as_resolved.2.1 c).1, hsame]
  . apply compiles_as_resolved.2.2.1 c node Handler.equality
    right
    exact ⟨rfl, parent, rfl, rfl⟩
  . exact ⟨_, rfl⟩

end Compiler

end SqlExpr
