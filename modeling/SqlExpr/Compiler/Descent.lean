import SqlExpr.Compiler.Run
import SqlExpr.Node.Height

/-!
This module contains a sufficient condition for a compilation to end: that the programs of the
handlers compile only nodes of less height (`Program.CompilesBelow`). Such a program ends if smaller
nodes do (`Program.isSome_run`). It is enough that a program compiles only nodes of a given set, the
parts of its node, whatever it is answered (`Program.CompilesOnly`).
-/

namespace SqlExpr

namespace Program

/--
Whether a program compiles only nodes of a height below `n`, and does not end with a replacement.
-/
def CompilesBelow (n : Nat) : Program → Prop
  | .done (.sql _) => True
  | .done (.replace _) => False
  | .fail _ => True
  | .perform _ next => ∀ result, (next result).CompilesBelow n
  | .compile node _ next => node.height < n ∧ ∀ result, (next result).CompilesBelow n
  | .compileAlone node next => node.height < n ∧ ∀ result, (next result).CompilesBelow n
  | .handles _ next => ∀ result, (next result).CompilesBelow n
  | .dialect next => ∀ d, (next d).CompilesBelow n
  | .within _ body next => body.CompilesBelow n ∧ ∀ result, (next result).CompilesBelow n

/--
Whether a program compiles only nodes of a set, does not ask which kinds are handled and does not end
with a replacement.
-/
def CompilesOnly (S : Node → Prop) : Program → Prop
  | .done (.sql _) => True
  | .done (.replace _) => False
  | .fail _ => True
  | .perform _ next => ∀ result, (next result).CompilesOnly S
  | .compile node _ next => S node ∧ ∀ result, (next result).CompilesOnly S
  | .compileAlone node next => S node ∧ ∀ result, (next result).CompilesOnly S
  | .handles _ _ => False
  | .dialect next => ∀ d, (next d).CompilesOnly S
  | .within _ body next => body.CompilesOnly S ∧ ∀ result, (next result).CompilesOnly S

theorem CompilesOnly.compilesBelow {S : Node → Prop} {n : Nat} {program : Program}
    (h : program.CompilesOnly S) (hS : ∀ node, S node → node.height < n) :
    program.CompilesBelow n := by
  induction program with
  | done fragment => cases fragment <;> exact h
  | fail e => trivial
  | perform op next ih => exact fun result => ih result (h result)
  | compile node demand next ih => exact ⟨hS node h.1, fun result => ih result (h.2 result)⟩
  | compileAlone node next ih => exact ⟨hS node h.1, fun result => ih result (h.2 result)⟩
  | handles kind next => cases h
  | dialect next ih => exact fun d => ih d (h d)
  | within guard body next ihbody ih => exact ⟨ihbody h.1, fun result => ih result (h.2 result)⟩

theorem ne_replace_of_compilesBelow {n : Nat} {program : Program} (h : program.CompilesBelow n)
    {c : Compiler} {compile : CompileFn} {s s' : State} {replacement : Node} :
    program.run c compile s ≠ some (.ok (.replace replacement), s') := by
  induction program generalizing s with
  | done fragment => cases fragment <;> simp_all [CompilesBelow, run]
  | fail e => simp [run]
  | perform op next ih => exact ih _ (h _)
  | compile node demand next ih =>
    simp only [run]
    split
    . simp
    . exact ih _ (h.2 _)
  | compileAlone node next ih =>
    simp only [run]
    split
    . simp
    . exact ih _ (h.2 _)
  | handles kind next ih => exact ih _ (h _)
  | dialect next ih => exact ih _ (h _)
  | within guard body next _ ih =>
    simp only [run]
    split
    . simp
    . exact ih _ (h.2 _)

end Program

namespace CompileFn

def EndsBelow (n : Nat) (compile : CompileFn) : Prop :=
  ∀ node p s, node.height < n → (compile node p s).isSome

theorem EndsBelow.withDemand {n : Nat} {compile : CompileFn} (h : compile.EndsBelow n) {node : Node}
    (hnode : node.height < n) (demand : Demand) (s : State) :
    (compile.withDemand node demand s).isSome := by
  unfold CompileFn.withDemand
  split
  . rfl
  . exact h _ _ _ hnode

theorem EndsBelow.alone {n : Nat} {compile : CompileFn} (h : compile.EndsBelow n) {node : Node}
    (hnode : node.height < n) : (compile.alone node).isSome := by
  have hsome := h.withDemand hnode .ambient .new
  unfold CompileFn.alone
  split
  . simp_all
  . rfl
  . split <;> rfl

end CompileFn

theorem Guard.isSome_run {α : Type} (guard : Guard) (s : State)
    {body : State → Option (Except Error α × State)} (h : ∀ s, (body s).isSome) :
    (guard.run s body).isSome := by
  unfold run
  split
  . rfl
  . next inside _ =>
    split
    . next hnone => simpa [hnone] using h inside
    . rfl

theorem Program.isSome_run {n : Nat} {program : Program} (h : program.CompilesBelow n)
    {c : Compiler} {compile : CompileFn} (hcompile : compile.EndsBelow n) (s : State) :
    (program.run c compile s).isSome := by
  induction program generalizing s with
  | done fragment => rfl
  | fail e => rfl
  | perform op next ih => exact ih _ (h _) _
  | compile node demand next ih =>
    simp only [run]
    split
    . next hnone => simpa [hnone] using hcompile.withDemand h.1 demand s
    . exact ih _ (h.2 _) _
  | compileAlone node next ih =>
    simp only [run]
    split
    . next hnone => simpa [hnone] using hcompile.alone h.1
    . exact ih _ (h.2 _) _
  | handles kind next ih => exact ih _ (h _) _
  | dialect next ih => exact ih _ (h _) _
  | within guard body next ihbody ih =>
    simp only [run]
    split
    . next hnone =>
      have := guard.isSome_run s (ihbody h.1)
      simp [hnone] at this
    . exact ih _ (h.2 _) _

namespace Action

variable {α β : Type} {S : Node → Prop}

/--
Whether a program compiles only nodes of a set if what follows the action does.
-/
def CompilesOnly (S : Node → Prop) (action : Action α) : Prop :=
  ∀ next : α → Program, (∀ a, (next a).CompilesOnly S) → (action next).CompilesOnly S

theorem CompilesOnly.pure (a : α) : CompilesOnly S (Pure.pure a : Action α) :=
  fun _ h => h a

theorem CompilesOnly.bind {action : Action α} {f : α → Action β} (haction : action.CompilesOnly S)
    (hf : ∀ a, (f a).CompilesOnly S) : CompilesOnly S (action >>= f) :=
  fun _ h => haction _ fun a => hf a _ h

theorem CompilesOnly.ofExcept (result : Except Error α) : (ofExcept result).CompilesOnly S := by
  intro next h
  cases result with
  | ok a => exact h a
  | error e => trivial

theorem CompilesOnly.perform (op : Operation) : (perform op).CompilesOnly S :=
  fun _ h result => ofExcept result _ h

theorem CompilesOnly.dialect : Action.dialect.CompilesOnly S :=
  fun _ h => h

theorem CompilesOnly.compile {node : Node} (hnode : S node) (demand : Demand) :
    (compile node demand).CompilesOnly S :=
  fun _ h => ⟨hnode, fun result => ofExcept result _ h⟩

theorem CompilesOnly.compileEach {nodes : List Node} (hnodes : ∀ node ∈ nodes, S node)
    (demand : Demand) : (compileEach demand nodes).CompilesOnly S := by
  induction nodes with
  | nil => exact .pure _
  | cons node nodes ih =>
    refine .bind (.compile (hnodes _ List.mem_cons_self) demand) fun _ => ?_
    refine .bind (ih fun node h => hnodes node (List.mem_cons_of_mem _ h)) fun _ => ?_
    exact .pure _

theorem compilesOnly_toSql {action : Action String} (h : action.CompilesOnly S) :
    action.toSql.CompilesOnly S :=
  h _ fun _ => trivial

end Action

end SqlExpr
