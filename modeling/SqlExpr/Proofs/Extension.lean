import SqlExpr.Proofs.Node.Everywhere
import SqlExpr.Proofs.Outcome.Service
import SqlExpr.Proofs.Resolution

/-!
This module contains the proof that a new handler changes nothing for expressions whose kinds it is
not for (`Compiler.extension_is_conservative`). Built-in handlers compile nothing but the parts of
their node, and identity tests in the place of comparisons with null. So two compilers agree on a
set of expressions if it is closed under these, and if they find the same handlers for its kinds
(`Compiler.agreeOn_compileAt`).
-/

namespace SqlExpr

namespace CompileFn

/--
Whether two ways to compile do the same with the expressions of a set.
-/
def AgreeOn (S : Node → Prop) (compile compile' : CompileFn) : Prop :=
  ∀ node, S node → ∀ p s, compile node p s = compile' node p s

variable {S : Node → Prop} {compile compile' : CompileFn} {node : Node}

theorem AgreeOn.withDemand (h : AgreeOn S compile compile') (hnode : S node) (demand : Demand)
    (s : State) : compile.withDemand node demand s = compile'.withDemand node demand s := by
  unfold CompileFn.withDemand
  split
  . rfl
  . apply h node hnode

theorem AgreeOn.alone (h : AgreeOn S compile compile') (hnode : S node) :
    compile.alone node = compile'.alone node := by
  unfold CompileFn.alone
  rw [h.withDemand hnode]

end CompileFn

theorem Program.run_congr_of_compilesOnly {S : Node → Prop} {program : Program}
    (h : program.CompilesOnly S) {a b : Compiler} (hdialect : a.dialect = b.dialect)
    {compile compile' : CompileFn} (hcompile : compile.AgreeOn S compile') (s : State) :
    program.run a compile s = program.run b compile' s := by
  induction program generalizing s with
  | done fragment => rfl
  | fail e => rfl
  | perform op next ih => exact ih _ (h _) _
  | compile node demand next ih =>
    simp only [run, hcompile.withDemand h.1]
    split
    . rfl
    . exact ih _ (h.2 _) _
  | compileAlone node next ih =>
    simp only [run, hcompile.alone h.1]
    split
    . rfl
    . exact ih _ (h.2 _) _
  | handles kind next => cases h
  | dialect next ih =>
    simp only [run, hdialect]
    exact ih _ (h _) _
  | within guard body next ihbody ih =>
    have hbody : body.run a compile = body.run b compile' := by
      funext inside
      exact ihbody h.1 inside
    simp only [run, hbody]
    split
    . rfl
    . exact ih _ (h.2 _) _

theorem Service.compilesParts {service : Service} (h : service ≠ .equality) :
    service.handler.CompilesParts := by
  cases service with
  | value => exact Handler.compilesParts_value
  | null => exact Handler.compilesParts_null
  | unary => exact Handler.compilesParts_unary
  | binary => exact Handler.compilesParts_binary
  | equality => contradiction
  | chain => exact Handler.compilesParts_chain
  | call => exact Handler.compilesParts_call
  | table => exact Handler.compilesParts_table
  | column => exact Handler.compilesParts_column
  | select => exact Handler.compilesParts_select
  | setOperation => exact Handler.compilesParts_setOperation

namespace Compiler

variable {c c' : Compiler} {S : Node → Prop}

/--
Whether the expressions of a set have built-in handlers, as far as they have one, and all that these
compile is in the set.
-/
structure Encloses (c : Compiler) (S : Node → Prop) : Prop where
  part : ∀ node, S node → ∀ part ∈ node.parts, S part
  service : ∀ node handler, S node → c.lookup? node.kind = some handler →
    ∃ service : Service, service.handler = handler
  identity : ∀ kind symbol left right op, S (.binary kind symbol left right) →
    c.lookup? kind = some Handler.equality → right.kind.isA Kind.Standard.null = true →
    op = BinaryOp.is ∨ op = BinaryOp.isNot → S (.binaryOp op left right)

theorem serveWith_congr {handler : Handler} {node : Node} {depth : Nat}
    (hdialect : c.dialect = c'.dialect) (h : (handler node).CompilesOnly (· ∈ node.parts))
    (hparts : (c.compileAt depth).AgreeOn (· ∈ node.parts) (c'.compileAt depth)) (p : Precedence)
    (s : State) : c.serveWith handler depth node p s = c'.serveWith handler depth node p s := by
  have hbelow := h.compilesBelow fun _ => Node.height_lt_of_mem_parts
  unfold serveWith
  rw [Program.run_congr_of_compilesOnly h hdialect hparts]
  apply Option.bind_congr
  intro r hrun
  obtain ⟨result, after⟩ := r
  cases result with
  | error e => rfl
  | ok fragment =>
    cases fragment with
    | sql text => rfl
    | replace replacement => exact absurd hrun (Program.ne_replace_of_compilesBelow hbelow)

theorem agreeOn_compileAt (hS : c.Encloses S) (hdialect : c.dialect = c'.dialect)
    (hlookup : ∀ node, S node → c.lookup? node.kind = c'.lookup? node.kind) (depth : Nat) :
    (c.compileAt depth).AgreeOn S (c'.compileAt depth) := by
  induction depth with
  | zero =>
    intro node hnode p s
    rfl
  | succ depth ih =>
    intro node hnode p s
    have hsame := hlookup node hnode
    cases hfound : c.lookup? node.kind with
    | none =>
      rw [hfound] at hsame
      rw [compileAt_of_lookup?_none hfound, compileAt_of_lookup?_none hsame.symm]
    | some handler =>
      rw [hfound] at hsame
      rw [compileAt_of_lookup? hfound, compileAt_of_lookup? hsame.symm]
      have hparts : (c.compileAt depth).AgreeOn (· ∈ node.parts) (c'.compileAt depth) :=
        fun part hmem => ih part (hS.part node hnode part hmem)
      obtain ⟨service, rfl⟩ := hS.service node handler hnode hfound
      by_cases hservice : service = .equality
      . subst hservice
        cases Handler.equality_eq node with
        | inl hdescends => exact serveWith_congr hdialect hdescends hparts p s
        | inr hreplaces =>
          obtain ⟨kind, symbol, left, right, op, rfl, hnull, hop, heq⟩ := hreplaces
          have hreplacement := hS.identity kind symbol left right op hnode hfound hnull hop
          have hview : c.compileAt depth (.binaryOp op left right) p
              = c'.compileAt depth (.binaryOp op left right) p := by
            funext view
            exact ih _ hreplacement p view
          simp only [serveWith, Service.handler, heq, Program.run, Option.bind_some, finish, hview]
      . exact serveWith_congr hdialect (Service.compilesParts hservice node) hparts p s

theorem lookup?_register_of_not_named {kind kind' : Kind}
    (h : ∀ ancestor ∈ kind'.lineage, ancestor.name ≠ kind.name) (handler : Handler) :
    (c.register [kind] handler).lookup? kind' = c.lookup? kind' := by
  have hown : (c.register [kind] handler).own.lookup? kind'.lineage
      = c.own.lookup? kind'.lineage := by
    apply Layer.lookup?_congr
    intro ancestor hmem
    have hother : ¬∃ registered ∈ [kind], registered.name = ancestor.name := by
      simpa using (h ancestor hmem).symm
    simp only [register, NameMap.get?_insertAll_kinds, if_neg hother]
  unfold lookup? layers
  rw [List.findSome?_cons, List.findSome?_cons, hown]
  rfl

/--
Whether a new handler for a name leaves a kind alone: the kind and its ancestors have other names,
and the handler that serves the kind, if there is one, is built in.
-/
def Spares (c : Compiler) (name : String) (kind : Kind) : Prop :=
  (∀ handler, c.lookup? kind = some handler → ∃ service : Service, service.handler = handler) ∧
    ∀ ancestor ∈ kind.lineage, ancestor.name ≠ name

/--
Whether the kinds of both identity tests are spared.
-/
def SparesIdentity (c : Compiler) (name : String) : Prop :=
  c.Spares name Kind.Standard.is ∧ c.Spares name Kind.Standard.isNot

theorem SparesIdentity.spares {name : String} (h : c.SparesIdentity name) {op : BinaryOp}
    (hop : op = .is ∨ op = .isNot) : c.Spares name op.kind := by
  rcases hop with rfl | rfl
  . exact h.1
  . exact h.2

/--
Whether the kind of a node is spared, and if the node is a comparison with null, also the kinds of
the identity tests that may take its place.
-/
def SparesNode (c : Compiler) (name : String) (node : Node) : Prop :=
  c.Spares name node.kind ∧
    ∀ kind symbol left right, node = .binary kind symbol left right →
      c.lookup? kind = some Handler.equality → right.kind.isA Kind.Standard.null = true →
      c.SparesIdentity name

/--
The expressions that the nodes of a tree are compiled by way of: these nodes, and identity tests
between them.
-/
inductive Reached (c : Compiler) (name : String) : Node → Prop where
  | node {node : Node} (h : node.Everywhere (c.SparesNode name)) : Reached c name node
  | identity {op : BinaryOp} {left right : Node} (hop : op = .is ∨ op = .isNot)
      (hidentity : c.SparesIdentity name) (hleft : left.Everywhere (c.SparesNode name))
      (hright : right.Everywhere (c.SparesNode name)) : Reached c name (.binaryOp op left right)

theorem Reached.spares {name : String} {node : Node} (h : c.Reached name node) :
    c.Spares name node.kind := by
  cases h with
  | node h => exact h.here.1
  | identity hop hidentity => exact hidentity.spares hop

theorem encloses_reached (c : Compiler) (name : String) : c.Encloses (c.Reached name) := by
  constructor
  . intro node hnode part hmem
    cases hnode with
    | node h => exact .node (h.of_mem_parts hmem)
    | identity _ _ hleft hright =>
      have hoperands := List.forall_mem_cons.2 ⟨hleft, List.forall_mem_singleton.2 hright⟩
      exact .node (hoperands part hmem)
  . intro node handler hnode hlookup
    exact hnode.spares.1 handler hlookup
  . intro kind symbol left right op hnode hlookup hnull hop
    cases hnode with
    | node h =>
      have hleft := h.of_mem_parts List.mem_cons_self
      have hright := h.of_mem_parts (List.mem_cons_of_mem _ List.mem_cons_self)
      exact .identity hop (h.here.2 kind symbol left right rfl hlookup hnull) hleft hright
    -- Even if identity tests were served as comparisons, their replacements would be such tests.
    | identity _ hidentity hleft hright => exact .identity hop hidentity hleft hright

/--
A compiler that finds the same handlers for all kinds without a name in their lineage compiles alike
where this name does not occur.
-/
theorem compileAt_of_spares {name : String} (hdialect : c.dialect = c'.dialect)
    (hlookup : ∀ kind, (∀ ancestor ∈ kind.lineage, ancestor.name ≠ name) →
      c'.lookup? kind = c.lookup? kind)
    {node : Node} (hnode : node.Everywhere (c.SparesNode name)) (depth : Nat) (p : Precedence)
    (s : State) : c'.compileAt depth node p s = c.compileAt depth node p s := by
  have hsame : ∀ part, c.Reached name part → c.lookup? part.kind = c'.lookup? part.kind := by
    intro part hpart
    rw [hlookup part.kind hpart.spares.2]
  have hagree := agreeOn_compileAt (c.encloses_reached name) hdialect hsame depth
  exact (hagree node (.node hnode) p s).symm

/--
Registering a handler for a kind, on a compiler or on a child of it, changes nothing for expressions
that are compiled by built-in handlers and in which no kind is a special case of this one. If there
is a comparison with null in the expression, the same is asked of identity tests.
-/
theorem extension_is_conservative (c : Compiler) (kind : Kind) (handler : Handler) {node : Node}
    (hnode : node.Everywhere (c.SparesNode kind.name)) (depth : Nat) (p : Precedence) (s : State) :
    (c.register [kind] handler).compileAt depth node p s = c.compileAt depth node p s ∧
      (c.withParent.register [kind] handler).compileAt depth node p s
        = c.compileAt depth node p s := by
  constructor
  . refine compileAt_of_spares ?_ ?_ hnode depth p s
    . rfl
    . intro other hother
      apply lookup?_register_of_not_named hother
  . refine compileAt_of_spares ?_ ?_ hnode depth p s
    . rfl
    . intro other hother
      rw [lookup?_register_of_not_named hother, lookup?_withParent]

/--
A handler for a function of its own below a comparison with null, in a compiler that already has its
own handler for all functions.
-/
theorem extension_is_conservative_null :
    let written (text : String) : Handler := fun _ => .done (.sql text)
    let c := standard.register [Kind.Standard.function] (written "f")
    let node := Node.not (.eq (.col "a") .null)
    node.Everywhere (c.SparesNode Kind.Standard.sqrt.name) ∧
      (c.register [Kind.Standard.sqrt] (written "g")).compileAt 8 node .loosest .new
        = some (.ok "NOT a IS NULL", .new) ∧
      (c.withParent.register [Kind.Standard.sqrt] (written "g")).compileAt 8 node .loosest .new
        = some (.ok "NOT a IS NULL", .new) := by
  intro written c node
  have hspares (service : Service) (kind : Kind) (hlookup : c.lookup? kind = some service.handler)
      (hname : ∀ ancestor ∈ kind.lineage, ancestor.name ≠ Kind.Standard.sqrt.name) :
      c.Spares Kind.Standard.sqrt.name kind := by
    refine ⟨?_, hname⟩
    intro handler hfound
    rw [hlookup] at hfound
    exact ⟨service, Option.some.inj hfound⟩
  have hidentity : c.SparesIdentity Kind.Standard.sqrt.name :=
    ⟨hspares .binary _ rfl (by decide), hspares .binary _ rfl (by decide)⟩
  have hnode : node.Everywhere (c.SparesNode Kind.Standard.sqrt.name) := by
    refine .intro ⟨hspares .unary _ rfl (by decide), ?_⟩ (List.forall_mem_singleton.2 ?_)
    . nofun
    . refine .intro ⟨hspares .equality _ rfl (by decide), fun _ _ _ _ _ _ _ => hidentity⟩ ?_
      refine List.forall_mem_cons.2 ⟨?_, List.forall_mem_singleton.2 ?_⟩
      . exact .intro ⟨hspares .column _ rfl (by decide), nofun⟩ nofun
      . exact .intro ⟨hspares .null _ rfl (by decide), nofun⟩ nofun
  obtain ⟨hregistered, hchild⟩ :=
    c.extension_is_conservative Kind.Standard.sqrt (written "g") hnode 8 .loosest .new
  have hruns : c.compileAt 8 node .loosest .new = some (.ok "NOT a IS NULL", .new) := rfl
  exact ⟨hnode, hregistered.trans hruns, hchild.trans hruns⟩

end Compiler

end SqlExpr
