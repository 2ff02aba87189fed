import SqlExpr.Proofs.Node.Identity
import SqlExpr.Proofs.Outcome.Compiles

/-!
This module contains the proof that a comparison with null is compiled as an identity test, wherever
it stands in an expression (`Compiler.compiles_as_identity`). Its own precedence never counts, and
its left operand is compiled once.
-/

namespace SqlExpr

namespace Node

variable {d : Dialect}

theorem spelling?_of_null {kind : Kind} {right : Node} (h : kind.UniquelyNamed)
    (hkind : kind.testsEquality = true) (hnull : right.kind.isA Kind.Standard.null = true)
    (symbol : String) :
    spelling? kind symbol right
      =
    some (.nonassoc Rank.identity, kind.identityTest.symbol) := by
  unfold spelling?
  rw [h.service?_of_testsEquality hkind]
  simp only [hnull, if_true]
  unfold Kind.identityTest
  split <;> rfl

theorem spelling?_identityTest (kind : Kind) (symbol : String) (right : Node) :
    spelling? kind.identityTest.kind symbol right = some (.nonassoc Rank.identity, symbol) := by
  unfold Kind.identityTest
  split <;> rfl

theorem spelling?_identified {right : Node} (h : right.UniquelyNamed) (kind : Kind)
    (symbol : String) : spelling? kind symbol right.identified = spelling? kind symbol right := by
  unfold spelling?
  rw [h.isA_null_identified]

theorem outcomeAll_identified {nodes : List Node}
    (h : ∀ node ∈ nodes, ∀ p, node.identified.outcome d p = node.outcome d p) (p : Precedence) :
    outcomeAll d (identifiedAll nodes) p = outcomeAll d nodes p := by
  induction nodes with
  | nil => rfl
  | cons node nodes ih =>
    rw [List.forall_mem_cons] at h
    unfold identifiedAll outcomeAll
    rw [h.1, ih h.2]

theorem outcomeOption_identified {node? : Option Node}
    (h : ∀ node ∈ node?, ∀ p, node.identified.outcome d p = node.outcome d p) :
    outcomeOption d (identifiedOption node?) = outcomeOption d node? := by
  cases node? with
  | none => rfl
  | some node =>
    unfold identifiedOption outcomeOption
    rw [h node rfl]

theorem outcomeQuery_identified {q : Query Node}
    (h : ∀ node ∈ q.parts, ∀ p, node.identified.outcome d p = node.outcome d p) :
    outcomeQuery d (identifiedQuery q) = outcomeQuery d q := by
  obtain ⟨distinct, columns, sources, filter, groups, groupFilter, order, limit, offset⟩ := q
  rw [Query.forall_mem_parts] at h
  obtain ⟨hcolumns, hsources, hfilter, hgroups, hgroupFilter, horder⟩ := h
  unfold identifiedQuery outcomeQuery
  rw [outcomeAll_identified hcolumns, outcomeAll_identified hsources,
    outcomeOption_identified hfilter, outcomeAll_identified hgroups,
    outcomeOption_identified hgroupFilter, outcomeAll_identified horder]

theorem outcome_identified {node : Node} (h : node.UniquelyNamed) (p : Precedence) :
    node.identified.outcome d p = node.outcome d p := by
  induction h generalizing p with
  | literal x => rw [identified]
  | table name => rw [identified]
  | column table? name => rw [identified]
  | unary hkind hoperand ih =>
    rw [identified, outcome, outcome, ih]
    split
    . rfl
    . rfl
  | @binary kind symbol left right hkind hleft hright ihleft ihright =>
    cases htest : kind.testsEquality && right.kind.isA Kind.Standard.null with
    | false =>
      rw [identified_binary_of_not_null htest, outcome, outcome, spelling?_identified hright]
      split
      . rw [ihleft, ihright]
      . rfl
    -- The test spells itself as the comparison is spelled, whatever kind and symbol that has.
    | true =>
      rw [Bool.and_eq_true] at htest
      rw [identified_binary_of_null htest.1 htest.2, binaryOp, outcome, outcome,
        spelling?_identityTest, spelling?_of_null hkind htest.1 htest.2]
      simp only [ihleft, ihright]
  | @chain kind keyword first rest hkind hoperands ih =>
    rw [identified]
    by_cases hservice : kind.service? = some .chain
    . rw [outcome_chain hservice, outcome_chain hservice, ← outcomeAll_identified ih]
      rfl
    . rw [outcome, outcome, if_neg hservice, if_neg hservice]
      rfl
  | call hkind hargs ih =>
    rw [identified, outcome, outcome, outcomeAll_identified ih]
    rfl
  | select hparts ih =>
    rw [identified, outcome, outcome, outcomeQuery_identified ih]
  | setOperation op hleft hright ihleft ihright =>
    rw [identified, outcome, outcome, ihleft, ihright]
  | foreign hkind hchildren ih =>
    rw [identified, outcome, outcome]
    rfl

/-! Comparisons with null. -/

theorem outcome_of_isA_null {node : Node} (h : node.UniquelyNamed)
    (hnull : node.kind.isA Kind.Standard.null = true) (p : Precedence) :
    node.outcome d p = .bracketed node.precedence p (pure d.nullKeyword) := by
  have hservice := h.kind.service?_of_isA_null hnull
  have hleaf : node.IsLeaf := by
    intro service form hserves hform
    rw [hservice] at hserves
    cases hserves
    cases hform
  rw [outcome_of_isLeaf hleaf]
  unfold leafOutcome
  rw [hservice]

/--
Only the left operand of a comparison with null binds values.
-/
theorem outcome_comparison {kind : Kind} {symbol : String} {left right : Node}
    (h : (binary kind symbol left right).UniquelyNamed) (hkind : kind.testsEquality = true)
    (hnull : right.kind.isA Kind.Standard.null = true) (p : Precedence) :
    (binary kind symbol left right).outcome d p
      =
    .bracketed (.nonassoc Rank.identity) p
      ((fun text => Handler.infixText text kind.identityTest.symbol
        (Compiler.bracket right.precedence (.leftAssoc Rank.identity) d.nullKeyword)) <$>
        left.outcome d (.leftAssoc Rank.identity)) := by
  cases h with
  | binary hkindNamed hleft hright =>
    rw [outcome, spelling?_of_null hkindNamed hkind hnull]
    simp only [outcome_of_isA_null hright hnull]
    rfl

end Node

namespace Compiler

/--
An expression is compiled as if all its comparisons with null were identity tests, in every state
and under every demand. Such a comparison is bracketed as a test is, whatever precedence its kind
declares, and what is left of the state is what its left operand leaves.
-/
theorem compiles_as_identity (d : Dialect) {node : Node} (h : node.UniquelyNamed) (p : Precedence)
    (s : State) :
    (∃ r, (standard.withDialect d).Compiles node p s r ∧
      (standard.withDialect d).Compiles node.identified p s r) ∧
    ∀ kind symbol left right, node = .binary kind symbol left right →
      kind.testsEquality = true → right.kind.isA Kind.Standard.null = true →
      ∃ leftResult s',
        (standard.withDialect d).Compiles left (.leftAssoc Rank.identity) s (leftResult, s') ∧
        (standard.withDialect d).Compiles node p s
          (leftResult.map fun text => bracket (.nonassoc Rank.identity) p
            (Handler.infixText text kind.identityTest.symbol
              (bracket right.precedence (.leftAssoc Rank.identity) d.nullKeyword)), s') := by
  constructor
  . have hidentified := compiles_standard d node.identified p s
    rw [Node.outcome_identified h] at hidentified
    exact ⟨_, compiles_standard d node p s, hidentified⟩
  . intro kind symbol left right hnode hkind hnull
    have hcompiles := compiles_standard d node p s
    rw [hnode] at h hcompiles ⊢
    rw [Node.outcome_comparison h hkind hnull, Outcome.resultIn_bracketed, Outcome.resultIn_map,
      Outcome.values_bracketed, Outcome.values_map] at hcompiles
    refine ⟨_, _, compiles_standard d left (.leftAssoc Rank.identity) s, ?_⟩
    cases hleft : (left.outcome d (.leftAssoc Rank.identity)).resultIn s with
    | error e =>
      rw [hleft] at hcompiles
      exact hcompiles
    | ok text =>
      rw [hleft] at hcompiles
      exact hcompiles

/--
A comparison of a new kind, with a symbol and a precedence of its own, under a multiplication.
-/
theorem compiles_as_identity_same :
    let c := standard.withDialect .generic
    let same : Kind := .special "same" Kind.Standard.equal (some (.leftAssoc Rank.member))
    let flag := Node.scalar (.bool true)
    let node := Node.binaryOp .multiply (.binary same "===" flag .null) (.column none "a")
    let s' : State :=
      .ofRoot [("precedence", .precedence .loosest), ("parameters", .values [.bool true])]
    node.UniquelyNamed ∧
      node.identified = .binaryOp .multiply (.binaryOp .is flag .null) (.column none "a") ∧
      c.Compiles node .loosest .new (.ok "(? IS NULL) * a", s') ∧
      c.Compiles node.identified .loosest .new (.ok "(? IS NULL) * a", s') := by
  intro c same flag node s'
  have hsame : same.UniquelyNamed := by
    apply Kind.uniquelyNamed_special
    . decide
    . exact Kind.uniquelyNamed_of_mem_all Kind.Standard.equal_mem_all
  have hnamed : node.UniquelyNamed := by
    apply Node.UniquelyNamed.binary
    . exact Kind.uniquelyNamed_of_mem_all (by simp [BinaryOp.kind, Kind.Standard.all])
    . exact .binary hsame (.literal _) (.literal _)
    . exact .column _ _
  obtain ⟨⟨r, hnode, hidentified⟩, _⟩ := compiles_as_identity .generic hnamed .loosest .new
  have hruns : c.Compiles node .loosest .new (.ok "(? IS NULL) * a", s') := by
    refine ⟨4, ?_⟩
    dsimp only [c, same, flag, node, s']
    rfl
  cases hnode.unique hruns
  exact ⟨hnamed, rfl, hnode, hidentified⟩

end Compiler

end SqlExpr
