import SqlExpr.Compiler

/-!
This module contains the compilation of a node: its handler runs in a frame of its own that demands
the precedence of the node, and the text is bracketed if the node binds less tightly than what is
demanded of it. A replacement is compiled in the frames of the caller and with the demand on the
node that it replaces.

Handlers may compile any node, also the one they are given, so compilation need not end. It is
therefore defined up to a depth of nesting: `compileAt depth` gives `none` where more than `depth`
compilations would be open at once. A result does not depend on the depth that it was found with
(`compileAt_mono`).
-/

namespace SqlExpr

/--
A way to compile a node with a demand in a state. It gives a result and the state that is left.
-/
abbrev CompileFn := Node → Precedence → State → Option (Except Error String × State)

namespace CompileFn

/--
Compile with a demand that may be the one of the state. If the state has none, nothing is compiled.
-/
def withDemand (compile : CompileFn) (node : Node) (demand : Demand) (s : State) :
    Option (Except Error String × State) :=
  match demand.resolve s with
  | .error e => some (.error e, s)
  | .ok p => compile node p s

/--
Compile a statement: in a new state, with the values that are bound in the end.
-/
def alone (compile : CompileFn) (node : Node) : Option (Except Error (String × List Value)) :=
  match compile.withDemand node .ambient .new with
  | none => none
  | some (.error e, _) => some (.error e)
  | some (.ok text, s) =>
    match s.parameters with
    | .error e => some (.error e)
    | .ok vs => some (.ok (text, vs))

/--
Whether one way to compile finds at least the results that another one finds.
-/
def Extends (compile' compile : CompileFn) : Prop :=
  ∀ node p s r, compile node p s = some r → compile' node p s = some r

theorem Extends.withDemand {compile' compile : CompileFn} (hext : compile'.Extends compile)
    {node : Node} {demand : Demand} {s : State} {r : Except Error String × State}
    (h : compile.withDemand node demand s = some r) :
    compile'.withDemand node demand s = some r := by
  unfold CompileFn.withDemand at *
  split at h
  . exact h
  . exact hext _ _ _ _ h

theorem Extends.alone {compile' compile : CompileFn} (hext : compile'.Extends compile)
    {node : Node} {r : Except Error (String × List Value)} (h : compile.alone node = some r) :
    compile'.alone node = some r := by
  unfold CompileFn.alone at *
  split at h
  . cases h
  . next hsome => rw [hext.withDemand hsome]; exact h
  . next hsome => rw [hext.withDemand hsome]; exact h

end CompileFn

namespace Program

/--
Run a program of a compiler in a state. Requests to compile go to `compile`.
-/
def run (c : Compiler) (compile : CompileFn) :
    Program → State → Option (Except Error Fragment × State)
  | .done fragment, s => some (.ok fragment, s)
  | .fail e, s => some (.error e, s)
  | .perform op next, s => (next (op.apply s).1).run c compile (op.apply s).2
  | .compile node demand next, s =>
    match compile.withDemand node demand s with
    | none => none
    | some (result, s') => (next result).run c compile s'
  | .compileAlone node next, s =>
    match compile.alone node with
    | none => none
    | some result => (next result).run c compile s
  | .handles kind next, s => (next (c.handles kind)).run c compile s
  | .dialect next, s => (next c.dialect).run c compile s
  | .within guard body next, s =>
    match guard.run s (body.run c compile) with
    | none => none
    | some (result, s') => (next result).run c compile s'

theorem run_mono {c : Compiler} {compile' compile : CompileFn} (hext : compile'.Extends compile)
    {program : Program} {s : State} {r : Except Error Fragment × State}
    (h : program.run c compile s = some r) : program.run c compile' s = some r := by
  induction program generalizing s r with
  | done fragment => exact h
  | fail e => exact h
  | perform op next ih => exact ih _ h
  | compile node demand next ih =>
    simp only [run] at *
    split at h
    . cases h
    . next hsome => rw [hext.withDemand hsome]; exact ih _ h
  | compileAlone node next ih =>
    simp only [run] at *
    split at h
    . cases h
    . next hsome => rw [hext.alone hsome]; exact ih _ h
  | handles kind next ih => exact ih _ h
  | dialect next ih => exact ih _ h
  | within guard body next ihbody ih =>
    simp only [run] at *
    split at h
    . cases h
    . next hsome =>
      rw [Guard.run_mono (fun _ _ => ihbody) hsome]
      exact ih _ h

end Program

namespace Compiler

/--
Put brackets around the text of an expression that binds less tightly than what is demanded of it.
-/
def bracket (own demanded : Precedence) (text : String) : String :=
  if own < demanded then "(" ++ text ++ ")" else text

/--
Compile a node with a demand in a state, with at most `depth` compilations open at once.
-/
def compileAt (c : Compiler) : Nat → CompileFn
  | 0, _, _, _ => none
  | depth + 1, node, demanded, s =>
    match c.lookup? node.kind with
    | none => some (.error (.noHandler node.kind.name), s)
    | some handler =>
      s.scope (Bindings.empty.precedence node.precedence) fun inside =>
        match (handler node).run c (c.compileAt depth) inside with
        | none => none
        | some (.error e, s') => some (.error e, s')
        | some (.ok (.sql text), s') => some (.ok (bracket node.precedence demanded text), s')
        | some (.ok (.replace replacement), s') =>
          s'.parentView fun view => c.compileAt depth replacement demanded view

theorem compileAt_succ_extends (c : Compiler) (depth : Nat) :
    (c.compileAt (depth + 1)).Extends (c.compileAt depth) := by
  induction depth with
  | zero => intro node p s r h; cases h
  | succ depth ih =>
    intro node p s r h
    unfold compileAt at *
    split at h
    . exact h
    . refine State.scope_mono ?_ h
      intro inside r h
      split at h
      . cases h
      . next hsome => rw [Program.run_mono ih hsome]; exact h
      . next hsome => rw [Program.run_mono ih hsome]; exact h
      . next hsome =>
        rw [Program.run_mono ih hsome]
        exact State.parentView_mono (fun _ _ => ih _ _ _ _) h

theorem compileAt_mono (c : Compiler) {shallow deep : Nat} (hle : shallow ≤ deep) :
    (c.compileAt deep).Extends (c.compileAt shallow) := by
  induction hle with
  | refl => intro node p s r h; exact h
  | step _ ih => intro node p s r h; exact c.compileAt_succ_extends _ _ _ _ _ (ih _ _ _ _ h)

def compileWith (c : Compiler) (depth : Nat) (node : Node) (s : State) :
    Option (Except Error String × State) :=
  (c.compileAt depth).withDemand node .ambient s

def compileClause (c : Compiler) (depth : Nat) (node : Node) (s : State) :
    Option (Except Error String × State) :=
  (c.compileAt depth).withDemand node .clause s

/--
Compile a statement to its text and the values of its placeholders.
-/
def compile (c : Compiler) (depth : Nat) (node : Node) :
    Option (Except Error (String × List Value)) :=
  (c.compileAt depth).alone node

end Compiler

end SqlExpr
