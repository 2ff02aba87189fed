import SqlExpr.Proofs.Outcome.Compiles

/-!
This module contains expressions with places in them (`Node.IsContext`), and when two expressions
may stand in the place of one another: if the standard compiler makes the same of both, whatever is
demanded, and not only one of them is null (`Node.Interchangeable`). Then it makes the same of every
expression with the one in its places and with the other (`Node.IsContext.interchangeable`).
-/

namespace SqlExpr

namespace Node

/--
Whether a function puts its argument into the places of an expression. There may be any number of
places, at any depth.
-/
inductive IsContext : (Node → Node) → Prop where
  | place : IsContext fun x => x
  | fixed (node : Node) : IsContext fun _ => node
  | unary (kind : Kind) (symbol : String) {operand : Node → Node} (hoperand : IsContext operand) :
      IsContext fun x => .unary kind symbol (operand x)
  | binary (kind : Kind) (symbol : String) {left right : Node → Node} (hleft : IsContext left)
      (hright : IsContext right) : IsContext fun x => .binary kind symbol (left x) (right x)
  | chain (kind : Kind) (keyword : String) {first : Node → Node} {rest : List (Node → Node)}
      (hfirst : IsContext first) (hrest : ∀ part ∈ rest, IsContext part) :
      IsContext fun x => .chain kind keyword (first x) (rest.map fun part => part x)
  | call (kind : Kind) (name : String) {args : List (Node → Node)}
      (hargs : ∀ part ∈ args, IsContext part) :
      IsContext fun x => .call kind name (args.map fun part => part x)
  | select {query : Query (Node → Node)} (hparts : ∀ part ∈ query.parts, IsContext part) :
      IsContext fun x => .select (query.map fun part => part x)
  | setOperation (op : SetOp) {left right : Node → Node} (hleft : IsContext left)
      (hright : IsContext right) : IsContext fun x => .setOperation op (left x) (right x)
  | foreign (kind : Kind) (precedence : Precedence) (value? : Option Value)
      {children : List (Node → Node)} (hchildren : ∀ part ∈ children, IsContext part) :
      IsContext fun x => .foreign kind precedence value? (children.map fun part => part x)

variable {d : Dialect} {node node' node'' : Node}

/--
Whether the standard compiler makes the same of two expressions, and an expression that they are
part of cannot tell them apart.
-/
structure Interchangeable (d : Dialect) (node node' : Node) : Prop where
  isA_null : node.kind.isA Kind.Standard.null = node'.kind.isA Kind.Standard.null
  outcome_eq : ∀ p, node.outcome d p = node'.outcome d p

theorem Interchangeable.refl (node : Node) : Interchangeable d node node :=
  ⟨rfl, fun _ => rfl⟩

theorem Interchangeable.trans (h : Interchangeable d node node')
    (h' : Interchangeable d node' node'') : Interchangeable d node node'' :=
  ⟨h.isA_null.trans h'.isA_null, fun p => (h.outcome_eq p).trans (h'.outcome_eq p)⟩

theorem Interchangeable.compiles (h : Interchangeable d node node') (p : Precedence) (s : State) :
    ∃ r, (Compiler.standard.withDialect d).Compiles node p s r ∧
      (Compiler.standard.withDialect d).Compiles node' p s r := by
  refine ⟨_, Compiler.compiles_standard d node p s, ?_⟩
  rw [h.outcome_eq]
  exact Compiler.compiles_standard d node' p s

theorem leafOutcome_congr (hkind : node.kind = node'.kind)
    (hprecedence : node.precedence = node'.precedence) (hvalue : node.value? = node'.value?)
    (p : Precedence) : leafOutcome d node p = leafOutcome d node' p := by
  unfold leafOutcome mismatch
  rw [hkind, hprecedence, hvalue]

theorem spelling?_congr (h : Interchangeable d node node') (kind : Kind) (symbol : String) :
    spelling? kind symbol node = spelling? kind symbol node' := by
  unfold spelling?
  rw [h.isA_null]

section

variable {x y : Node}

theorem outcomeAll_congr {parts : List (Node → Node)}
    (h : ∀ part ∈ parts, Interchangeable d (part x) (part y)) (p : Precedence) :
    outcomeAll d (parts.map fun part => part x) p
      =
    outcomeAll d (parts.map fun part => part y) p := by
  induction parts with
  | nil => rfl
  | cons part parts ih =>
    rw [List.forall_mem_cons] at h
    simp only [List.map_cons, outcomeAll]
    rw [h.1.outcome_eq, ih h.2]

theorem outcomeOption_congr {part? : Option (Node → Node)}
    (h : ∀ part ∈ part?, Interchangeable d (part x) (part y)) :
    outcomeOption d (part?.map fun part => part x)
      =
    outcomeOption d (part?.map fun part => part y) := by
  cases part? with
  | none => rfl
  | some part =>
    simp only [Option.map_some, outcomeOption]
    rw [(h part rfl).outcome_eq]

theorem outcomeQuery_congr {q : Query (Node → Node)}
    (h : ∀ part ∈ q.parts, Interchangeable d (part x) (part y)) :
    outcomeQuery d (q.map fun part => part x) = outcomeQuery d (q.map fun part => part y) := by
  obtain ⟨hcolumns, hsources, hfilter, hgroups, hgroupFilter, horder⟩ := Query.forall_mem_parts.1 h
  simp only [Query.map, outcomeQuery]
  rw [outcomeAll_congr hcolumns, outcomeAll_congr hsources, outcomeOption_congr hfilter,
    outcomeAll_congr hgroups, outcomeOption_congr hgroupFilter, outcomeAll_congr horder]

/--
An expression has the same outcome with interchangeable expressions in its places. Each node asks of
its parts for their outcomes, and of the right operand of a comparison whether it is null.
-/
theorem IsContext.interchangeable {context : Node → Node} (hcontext : IsContext context)
    (h : Interchangeable d x y) : Interchangeable d (context x) (context y) := by
  induction hcontext with
  | place => exact h
  | fixed node => exact .refl node
  | unary kind symbol _ ih =>
    refine ⟨rfl, ?_⟩
    intro p
    unfold outcome
    split
    . rw [ih.outcome_eq]
    . apply leafOutcome_congr rfl rfl rfl
  | binary kind symbol _ _ ihleft ihright =>
    refine ⟨rfl, ?_⟩
    intro p
    unfold outcome
    rw [spelling?_congr ihright]
    split
    . rw [ihleft.outcome_eq, ihright.outcome_eq]
    . apply leafOutcome_congr rfl rfl rfl
  | chain kind keyword _ _ ihfirst ihrest =>
    refine ⟨rfl, ?_⟩
    intro p
    unfold outcome
    split
    . rw [ihfirst.outcome_eq, outcomeAll_congr ihrest]
    . apply leafOutcome_congr rfl rfl rfl
  | call kind name _ ih =>
    refine ⟨rfl, ?_⟩
    intro p
    unfold outcome
    split
    . rw [outcomeAll_congr ih]
    . apply leafOutcome_congr rfl rfl rfl
  | select _ ih =>
    refine ⟨rfl, ?_⟩
    intro p
    unfold outcome
    rw [outcomeQuery_congr ih]
  | setOperation op _ _ ihleft ihright =>
    refine ⟨rfl, ?_⟩
    intro p
    unfold outcome
    rw [ihleft.outcome_eq, ihright.outcome_eq]
  | foreign kind precedence value? _ _ =>
    refine ⟨rfl, ?_⟩
    intro p
    apply leafOutcome_congr rfl rfl rfl

end

end Node

end SqlExpr
