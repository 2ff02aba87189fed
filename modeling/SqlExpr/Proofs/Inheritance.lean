import SqlExpr.Proofs.Dispatch
import SqlExpr.Proofs.Naming

/-!
This module contains what a kind has from its ancestors. A handler for a kind serves all kinds below
it (`Compiler.handles_register_iff`). In a taxonomy, every compiler that handles an ancestor handles
the kind, and the precedence is that of the ancestor if nothing nearer declares one
(`Kind.Taxonomy.isA_orders_kinds`).
-/

namespace SqlExpr

namespace Compiler

variable {c : Compiler} {kind other : Kind}

theorem handles_iff :
    c.handles kind = true
      ↔
    ∃ layer ∈ c.layers, ∃ ancestor ∈ kind.lineage,
      (layer.handlers.get? ancestor.name).isSome = true := by
  simp only [handles, lookup?, Layer.lookup?, List.findSome?_isSome_iff]

theorem handles_of_lineage_subset (h : other.lineage ⊆ kind.lineage)
    (hhandles : c.handles other = true) : c.handles kind = true := by
  rw [handles_iff] at hhandles
  obtain ⟨layer, hlayer, ancestor, hmem, hsome⟩ := hhandles
  exact handles_iff.2 ⟨layer, hlayer, ancestor, h hmem, hsome⟩

theorem handles_empty : empty.handles kind = false := by
  rw [Bool.eq_false_iff, Ne, handles_iff]
  rintro ⟨layer, hlayer, ancestor, _, hsome⟩
  cases List.mem_singleton.1 hlayer
  cases hsome

/--
A registration makes a compiler handle all kinds below the registered ones, next to those that it
handles already.
-/
theorem handles_register_iff (kinds : List Kind) (handler : Handler) :
    (c.register kinds handler).handles kind = true
      ↔
    (∃ registered ∈ kinds, kind.isA registered = true) ∨ c.handles kind = true := by
  have hown (name : String) : ((c.register kinds handler).own.handlers.get? name).isSome = true
      ↔ (∃ registered ∈ kinds, registered.name = name)
        ∨ (c.own.handlers.get? name).isSome = true := by
    simp only [register, NameMap.get?_insertAll_kinds]
    by_cases h : ∃ registered ∈ kinds, registered.name = name <;> simp [h]
  have hancestors : (c.register kinds handler).ancestors = c.ancestors := rfl
  simp only [handles_iff, layers, List.exists_mem_cons_iff, hown, hancestors, ← or_assoc]
  apply or_congr_left
  constructor
  . rintro ⟨ancestor, hmem, ⟨registered, hregistered, hname⟩ | hsome⟩
    . exact .inl ⟨registered, hregistered, Kind.isA_iff.2 ⟨ancestor, hmem, hname.symm⟩⟩
    . exact .inr ⟨ancestor, hmem, hsome⟩
  . rintro (⟨registered, hregistered, hbelow⟩ | ⟨ancestor, hmem, hsome⟩)
    . obtain ⟨ancestor, hmem, hname⟩ := Kind.isA_iff.1 hbelow
      exact ⟨ancestor, hmem, .inl ⟨registered, hregistered, hname.symm⟩⟩
    . exact ⟨ancestor, hmem, .inr hsome⟩

end Compiler

namespace Kind

theorem precedence_of_lineage_eq_append {kind other : Kind} {nearer : List Kind}
    (h : kind.lineage = nearer ++ other.lineage) :
    kind.precedence = (nearer.findSome? declared).getD other.precedence := by
  unfold precedence
  rw [h, List.findSome?_append]
  cases nearer.findSome? declared <;> rfl

namespace Taxonomy

/--
In a taxonomy `isA` is a partial order. A kind is below another one exactly if its lineage ends with
that of the other one, and also exactly if every compiler that handles the other one handles it. It
has the precedence of the other one if no kind before the other one in its lineage declares one.
-/
theorem isA_orders_kinds (t : Taxonomy) :
    (IsPartialOrder t.kinds fun a b => a.1.isA b.1 = true) ∧
    ∀ a ∈ t.kinds, ∀ b ∈ t.kinds,
      (a.isA b = true ↔ b.lineage <:+ a.lineage) ∧
      (a.isA b = true ↔ ∀ c : Compiler, c.handles b = true → c.handles a = true) ∧
      (a.isA b = true → (∀ ancestor ∈ a.nearerThan b, ancestor.declared = none) →
        a.precedence = b.precedence) := by
  refine ⟨t.isPartialOrder_isA, ?_⟩
  intro a ha b hb
  refine ⟨isA_iff_lineage_suffix ha hb, ?_, ?_⟩
  . constructor
    . intro h c
      apply Compiler.handles_of_lineage_subset
      exact ((isA_iff_lineage_suffix ha hb).1 h).subset
    . intro h
      -- What handles nothing but the kinds below the other one handles this one.
      have hregistered := h (.register .empty [b] fun _ => .done (.sql "")) <| by
        rw [Compiler.handles_register_iff]
        exact .inl ⟨b, List.mem_singleton_self b, b.isA_self⟩
      simpa [Compiler.handles_register_iff, Compiler.handles_empty] using hregistered
  . intro h hdeclared
    rw [precedence_of_lineage_eq_append (lineage_eq_append ha hb h),
      List.findSome?_eq_none_iff.2 hdeclared, Option.getD_none]

/--
Two kinds of chains that are new, one below the other. Neither declares a precedence.
-/
theorem isA_orders_kinds_xor :
    let chain := Standard.booleanChain
    let xor : Kind := .special "xor" chain none
    let strict : Kind := .special "strict_xor" xor none
    ∃ t : Taxonomy, strict ∈ t.kinds ∧ chain ∈ t.kinds ∧
      strict.isA chain = true ∧ chain.isA strict = false ∧
      chain.lineage <:+ strict.lineage ∧
      Compiler.standard.handles chain = true ∧ Compiler.standard.handles strict = true ∧
      strict.nearerThan chain = [strict, xor] ∧
      strict.precedence = chain.precedence ∧ chain.precedence = .leftAssoc Rank.other := by
  intro chain xor strict
  let t := ofList strict.lineage (by decide) (by decide)
  have hstrict : strict ∈ t.kinds := mem_ofList.2 strict.mem_lineage_self
  have hchain : chain ∈ t.kinds := mem_ofList.2 (by simp [strict, xor, mem_lineage_self])
  have hbelow : strict.isA chain = true := by decide
  have hhandles : Compiler.standard.handles chain = true := by rfl
  obtain ⟨horder, hlaws⟩ := t.isA_orders_kinds
  obtain ⟨hsuffix, hdispatch, hprecedence⟩ := hlaws strict hstrict chain hchain
  refine ⟨t, hstrict, hchain, hbelow, ?_, hsuffix.1 hbelow, hhandles,
    hdispatch.1 hbelow _ hhandles, by decide, hprecedence hbelow (by decide), by decide⟩
  rw [Bool.eq_false_iff]
  intro habove
  have heq := horder.antisymm ⟨strict, hstrict⟩ ⟨chain, hchain⟩ hbelow habove
  have hnames : strict.name = chain.name := congrArg (fun kind => kind.1.name) heq
  exact absurd hnames (by decide)

end Taxonomy

end Kind

end SqlExpr
