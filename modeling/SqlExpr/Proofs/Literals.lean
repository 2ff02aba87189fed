import SqlExpr.Node.Build
import SqlExpr.Proofs.Faults
import SqlExpr.Proofs.Node.Context
import SqlExpr.Proofs.Node.Everywhere
import SqlExpr.Proofs.Node.Identity

/-!
This module contains the proof that a literal is its value, whatever type it has and however many
optional layers it is wrapped in (`Compiler.literals_compile_as_values`). The kind and the value of
a literal are found by two walks through the layers that stay in step, so a literal is null for one
of them just if it is for the other. Null is then never bound.
-/

namespace SqlExpr

theorem Literal.isA_null_iff {x : Literal} :
    x.kind.isA Kind.Standard.null = true ↔ x.toValue = .null := by
  rw [x.kind_eq]
  cases x.toValue with
  | null => exact ⟨fun _ => rfl, fun _ => rfl⟩
  | _ => exact ⟨nofun, nofun⟩

theorem Literal.kind_beq_null_iff {x : Literal} :
    (x.kind == Kind.Standard.null) = true ↔ x.toValue = .null := by
  rw [x.kind_eq]
  cases x.toValue with
  | null => exact ⟨fun _ => rfl, fun _ => rfl⟩
  | _ => exact ⟨nofun, nofun⟩

namespace Handler

/--
A comparison with a literal is replaced just if the literal is null.
-/
theorem equality_literal_iff {kind : Kind} {symbol : String} {left : Node} {x : Literal} :
    equality (.binary kind symbol left (.literal x))
        = .done (.replace (.binaryOp kind.identityTest left (.literal x)))
      ↔
    x.toValue = .null := by
  rw [← Literal.isA_null_iff]
  cases hnull : x.kind.isA Kind.Standard.null with
  | true => simp [equality, Kind.identityTest, Node.kind, hnull]
  | false =>
    simp only [equality, Node.kind, hnull]
    constructor
    . intro h
      cases h
    . intro h
      cases h

end Handler

namespace Node

variable {d : Dialect}

theorem interchangeable_value (x : Literal) :
    Interchangeable d (.literal x) (.scalar (.value x.toValue)) := by
  have hkind : (literal x).kind = (scalar (.value x.toValue)).kind := x.kind_eq
  refine ⟨congrArg (·.isA Kind.Standard.null) hkind, ?_⟩
  intro p
  exact leafOutcome_congr hkind (congrArg Kind.precedence hkind) rfl p

/--
A comparison with a literal that is null may be written as the identity test with null.
-/
theorem interchangeable_comparison {op : BinaryOp} (hop : op = .equal ∨ op = .notEqual)
    {x : Literal} (h : x.toValue = .null) (left : Node) :
    Interchangeable d (.binaryOp op left (.literal x))
      (.binaryOp op.kind.identityTest left .null) := by
  have hvalue : Interchangeable d (.binaryOp op left (.literal x))
      (.binaryOp op left (.scalar (.value .null))) :=
    (IsContext.binary _ _ (.fixed left) .place).interchangeable (h ▸ interchangeable_value x)
  have hidentity : Interchangeable d (.binaryOp op left (.scalar (.value .null)))
      (.binaryOp op.kind.identityTest left .null) := by
    rcases hop with rfl | rfl
    . exact ⟨rfl, fun p => rfl⟩
    . exact ⟨rfl, fun p => rfl⟩
  exact hvalue.trans hidentity

/-! Values that are bound. -/

theorem mem_of_mem_visitedBelow {kind : Kind} {nodes : List Node} {part : Node}
    (h : part ∈ visitedBelow kind nodes) : part ∈ nodes := by
  unfold visitedBelow at h
  split at h
  . cases h
  . exact h

theorem exists_part_of_mem_visited {node part : Node} (h : part ∈ node.visited) :
    part = node ∨ ∃ child ∈ node.parts, part ∈ child.visited := by
  rw [← List.mem_flatMap]
  cases node with
  | literal | table | column => exact .inl (List.mem_singleton.1 h)
  | unary | binary | chain | call | foreign =>
    refine (List.mem_cons.1 h).imp_right ?_
    intro hbelow
    simpa [parts, children, visitedAll_eq_flatMap] using mem_of_mem_visitedBelow hbelow
  | select | setOperation =>
    refine (List.mem_cons.1 h).imp_right ?_
    intro hbelow
    simpa [parts, visitedQuery_eq_flatMap] using hbelow

theorem Everywhere.of_mem_visited {P : Node → Prop} {node part : Node} (h : node.Everywhere P)
    (hmem : part ∈ node.visited) : P part := by
  induction h with
  | intro hnode _ ih =>
    rcases exists_part_of_mem_visited hmem with rfl | ⟨child, hchild, hpart⟩
    . exact hnode
    . exact ih child hchild hpart

/--
Whether a node is a foreign one.
-/
def isForeign : Node → Bool
  | .foreign .. => true
  | _ => false

/--
A literal is served as a value only if it is not null, and no other node has a value.
-/
theorem boundValue?_ne_null {node : Node} (h : node.isForeign = false) :
    node.boundValue? ≠ some .null := by
  unfold boundValue?
  split
  . next hservice =>
    intro hvalue
    cases node with
    | literal x =>
      have hnull : x.toValue = .null := Option.some.inj hvalue
      simp only [Node.kind, x.kind_eq, hnull] at hservice
      cases hservice
    | foreign => cases h
    | _ => cases hvalue
  . intro hvalue
    cases hvalue

end Node

theorem Outcome.Visits.exists_of_mem_values {α : Type} {o : Outcome α} {nodes : List Node}
    (h : o.Visits nodes) {v : Value} (hmem : v ∈ o.values) :
    ∃ part ∈ nodes, part.boundValue? = some v := by
  cases h with
  | all a hfine ho =>
    rw [ho] at hmem
    exact List.mem_filterMap.1 hmem
  | upTo e before faulty after hnodes hbefore hfaulty ho =>
    rw [ho] at hmem
    obtain ⟨part, hpart, hvalue⟩ := List.mem_filterMap.1 hmem
    refine ⟨part, ?_, hvalue⟩
    rw [hnodes]
    exact List.mem_append_left _ hpart

theorem Node.null_notMem_values {node : Node} (h : node.Everywhere (·.isForeign = false))
    (d : Dialect) (p : Precedence) : .null ∉ (node.outcome d p).values := by
  intro hmem
  obtain ⟨part, hpart, hvalue⟩ := (visits_outcome node p).exists_of_mem_values hmem
  exact boundValue?_ne_null (h.of_mem_visited hpart) hvalue

namespace Compiler

/--
The kind of a literal is the one of its value, and it is null for both or for none. The literal and
its value compile alike wherever they stand, and comparisons with a literal that is null are
replaced by identity tests. Without foreign nodes null is never bound.
-/
theorem literals_compile_as_values (d : Dialect) :
    (∀ x : Literal, x.kind = x.toValue.kind ∧
      ((x.kind == Kind.Standard.null) = true ↔ x.toValue = .null) ∧
      ∀ context, Node.IsContext context → ∀ p s, ∃ r,
        (standard.withDialect d).Compiles (context (.literal x)) p s r ∧
        (standard.withDialect d).Compiles (context (.scalar (.value x.toValue))) p s r) ∧
    (∀ node : Node, node.Everywhere (·.isForeign = false) → ∀ p s us, s.parameters = .ok us →
      ∃ result s' vs, (standard.withDialect d).Compiles node p s (result, s') ∧
        s'.parameters = .ok (us ++ vs) ∧ .null ∉ vs) ∧
    (∀ (x : Literal) (left : Node),
      (Handler.equality (.eq left (.literal x)) = .done (.replace (.is left (.literal x)))
        ↔ x.toValue = .null) ∧
      (Handler.equality (.notEq left (.literal x)) = .done (.replace (.isNot left (.literal x)))
        ↔ x.toValue = .null)) ∧
    (∀ (x : Literal) (left : Node), x.toValue = .null →
      ∀ context, Node.IsContext context → ∀ p s,
        (∃ r, (standard.withDialect d).Compiles (context (.eq left (.literal x))) p s r ∧
          (standard.withDialect d).Compiles (context (.isNull left)) p s r) ∧
        (∃ r, (standard.withDialect d).Compiles (context (.notEq left (.literal x))) p s r ∧
          (standard.withDialect d).Compiles (context (.isNotNull left)) p s r)) := by
  refine ⟨?_, ?_, ?_, ?_⟩
  . intro x
    refine ⟨x.kind_eq, Literal.kind_beq_null_iff, ?_⟩
    intro context hcontext p s
    exact (hcontext.interchangeable (Node.interchangeable_value x)).compiles p s
  . intro node hnode p s us hs
    exact ⟨_, _, _, compiles_standard d node p s, State.parameters_addValues hs _,
      Node.null_notMem_values hnode d p⟩
  . intro x left
    exact ⟨Handler.equality_literal_iff, Handler.equality_literal_iff⟩
  . intro x left hnull context hcontext p s
    have hequal := Node.interchangeable_comparison (d := d) (.inl rfl) hnull left
    have hnotEqual := Node.interchangeable_comparison (d := d) (.inr rfl) hnull left
    exact ⟨(hcontext.interchangeable hequal).compiles p s,
      (hcontext.interchangeable hnotEqual).compiles p s⟩

/--
A comparison with a literal that is absent below two present layers, after one with a text.
-/
theorem literals_compile_as_values_layers :
    let c := standard.withDialect .generic
    let context (node : Node) := Node.and (.notEq (.col "b") (.scalar (.constant "x"))) node
    let node := context (.eq (.col "a") (.literal (.present (.present .absent))))
    let s' : State :=
      .ofRoot [("precedence", .precedence .loosest), ("parameters", .values [.text "x"])]
    Literal.toValue (.present (.present .absent)) = .null ∧ Node.IsContext context ∧
      node.Everywhere (·.isForeign = false) ∧ State.new.parameters = .ok [] ∧
      c.Compiles node .loosest .new (.ok "b != ? AND a IS NULL", s') ∧
      c.Compiles (context (.isNull (.col "a"))) .loosest .new (.ok "b != ? AND a IS NULL", s') ∧
      ∃ result after vs, c.Compiles node .loosest .new (result, after) ∧
        after.parameters = .ok ([] ++ vs) ∧ .null ∉ vs := by
  intro c context node s'
  have hnull : Literal.toValue (.present (.present .absent)) = .null := rfl
  have hrest : ∀ part ∈ [fun x : Node => x], Node.IsContext part := by
    intro part hmem
    rw [List.mem_singleton.1 hmem]
    exact .place
  have hcontext : Node.IsContext context := .chain _ _ (.fixed _) hrest
  have hcomparison (op : BinaryOp) (name : String) (x : Literal) :
      (Node.binaryOp op (.col name) (.literal x)).Everywhere (·.isForeign = false) :=
    .intro rfl (List.forall_mem_cons.2
      ⟨.intro rfl nofun, List.forall_mem_singleton.2 (.intro rfl nofun)⟩)
  have hnode : node.Everywhere (·.isForeign = false) :=
    .intro rfl (List.forall_mem_cons.2
      ⟨hcomparison .notEqual "b" _, List.forall_mem_singleton.2 (hcomparison .equal "a" _)⟩)
  obtain ⟨_, hbound, _, hidentity⟩ := literals_compile_as_values .generic
  obtain ⟨⟨r, hr, hr'⟩, _⟩ := hidentity _ (.col "a") hnull context hcontext .loosest .new
  have hruns : c.Compiles node .loosest .new (.ok "b != ? AND a IS NULL", s') :=
    (compiles_standard_iff parameters_new).2 rfl
  cases hr.unique hruns
  exact ⟨hnull, hcontext, hnode, rfl, hr, hr', hbound node hnode .loosest .new [] rfl⟩

end Compiler

end SqlExpr
