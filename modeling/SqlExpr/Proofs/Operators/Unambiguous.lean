import SqlExpr.Proofs.Operators.Reader
import SqlExpr.Proofs.Payload

/-!
This module contains the proof that operators of any kinds leave no text ambiguous
(`Operators.same_text_iff`): two expressions over a family of operators have one text if and only if
they differ in nothing but values. The text of an expression is read as the blank of the expression,
whatever is demanded of it (`Operators.readsAs_outcome`).
-/

namespace SqlExpr.Operators

variable {ops : Operators} {node node' : Node} {text text' : String} {vs vs' : List Value}

theorem outcome_prefixed {op : Operator} (hop : op.Prefixed) {operand : Node} {p : Precedence}
    (h : (Node.unary op.kind op.symbol operand).outcome .generic p = ⟨.ok text, vs⟩) :
    ∃ inner, operand.outcome .generic op.kind.precedence = ⟨.ok inner, vs⟩ ∧
      Compiler.bracket op.kind.precedence p
        (op.symbol ++ Handler.separator op.symbol inner ++ inner) = text := by
  unfold Node.outcome at h
  split at h
  . rw [Outcome.bracketed_eq_ok_iff] at h
    obtain ⟨outer, houter, htext⟩ := h
    obtain ⟨inner, us, us', hinner, hpure, hvs⟩ := Outcome.bind_eq_ok houter
    cases hpure
    rw [List.append_nil] at hvs
    rw [← hvs] at hinner
    exact ⟨inner, hinner, htext⟩
  . apply absurd h
    apply Node.leafOutcome_ne_ok _ rfl
    exact hop.notNull

theorem outcome_infixed {op : Operator} (hop : op.Infixed) {left right : Node} {p : Precedence}
    (h : (Node.binary op.kind op.symbol left right).outcome .generic p = ⟨.ok text, vs⟩) :
    ∃ leftText us rightText us',
      left.outcome .generic (Handler.operandDemands op.kind.precedence).1 = ⟨.ok leftText, us⟩ ∧
      right.outcome .generic (Handler.operandDemands op.kind.precedence).2
        = ⟨.ok rightText, us'⟩ ∧
      Compiler.bracket op.kind.precedence p (Handler.infixText leftText op.symbol rightText)
        = text := by
  unfold Node.outcome at h
  split at h
  . next own written hspelling =>
    -- The operator is not one of equality, so it is written as it is.
    have hown : own = op.kind.precedence ∧ written = op.symbol := by
      unfold Node.spelling? at hspelling
      split at hspelling
      . cases hspelling
        exact ⟨rfl, rfl⟩
      . next hservice =>
        rcases Kind.isA_equal_of_service? hservice with hisA | hisA
        . rw [hop.notEqual] at hisA
          cases hisA
        . rw [hop.notUnequal] at hisA
          cases hisA
      . cases hspelling
    rw [hown.1, hown.2, Outcome.bracketed_eq_ok_iff] at h
    obtain ⟨inner, hinner, htext⟩ := h
    obtain ⟨leftText, us, rightText, us', hleft, hright, rfl, _⟩ :=
      Outcome.joined_eq_ok_iff.1 hinner
    exact ⟨leftText, us, rightText, us', hleft, hright, htext⟩
  . apply absurd h
    apply Node.leafOutcome_ne_ok _ rfl
    exact hop.notNull

theorem readsAs_outcome (h : ops.Over node) {p : Precedence}
    (hout : node.outcome .generic p = ⟨.ok text, vs⟩) :
    ops.ReadsAs (pieces text) p node.blank := by
  induction h generalizing p text vs with
  | literal x =>
    have hplaceholder : pieces "?" = ["?"] := by decide +kernel
    have hkeyword : pieces "NULL" = ["NULL"] := by decide +kernel
    unfold Node.blank Literal.blank
    cases hnull : x.toValue.isNull with
    | true =>
      rw [Node.outcome_literal_of_isNull hnull, Outcome.bracketed_eq_ok_iff] at hout
      obtain ⟨inner, hinner, htext⟩ := hout
      cases hinner
      rw [← htext]
      apply ReadsAs.bracket
      have hread : ops.ReadsAs ["NULL"] .tightest .null := readsAs_null .tightest
      rw [← hkeyword] at hread
      exact hread
    | false =>
      rw [Node.outcome_literal_of_not_isNull hnull, Outcome.bracketed_eq_ok_iff] at hout
      obtain ⟨inner, hinner, htext⟩ := hout
      cases hinner
      rw [← htext]
      apply ReadsAs.bracket
      have hread : ops.ReadsAs ["?"] .tightest _ := readsAs_placeholder .tightest
      rw [← hplaceholder] at hread
      exact hread
  | @column table? name htable hname =>
    unfold Node.outcome at hout
    rw [Outcome.bracketed_eq_ok_iff] at hout
    obtain ⟨inner, hinner, htext⟩ := hout
    cases hinner
    rw [← htext]
    apply ReadsAs.bracket
    apply readsAs_column htable hname
  | prefixed hop hoperand ih =>
    obtain ⟨inner, hinner, htext⟩ := outcome_prefixed (ops.isPrefixed _ hop) hout
    rw [← htext]
    apply ReadsAs.bracket
    rw [pieces_prefixText (ops.isPrefixed _ hop).symbol]
    apply ReadsAs.prefixed hop (ih hinner)
  | infixed hop hleft hright ihleft ihright =>
    obtain ⟨leftText, us, rightText, us', hleft, hright, htext⟩ :=
      outcome_infixed (ops.isInfixed _ hop) hout
    rw [← htext]
    apply ReadsAs.bracket
    rw [pieces_infixText (ops.isInfixed _ hop).symbol]
    apply ReadsAs.infixed hop (ihleft hleft) (ihright hright)

theorem run_outcome (h : ops.Over node) {p : Precedence}
    (hout : node.outcome .generic p = ⟨.ok text, vs⟩) :
    ops.run (pieces text) (.before []) = some node.blank := by
  have hend : ops.MayFollow [] p := ⟨.closing, rfl, trivial⟩
  have hrun := readsAs_outcome h hout [] [] nofun hend
  rw [List.append_nil] at hrun
  rw [hrun]
  rfl

/--
Two statements over a family of operators have the same text if and only if they are the same up to
the values of their literals.
-/
theorem same_text_iff (ops : Operators) (h : ops.Over node) (h' : ops.Over node')
    (hcompile : compile node = .ok (text, vs)) (hcompile' : compile node' = .ok (text', vs')) :
    text = text' ↔ node.blank = node'.blank := by
  have hout := outcome_of_compile_eq_ok hcompile
  have hout' := outcome_of_compile_eq_ok hcompile'
  constructor
  . intro htext
    have hrun := run_outcome h hout
    rw [htext, run_outcome h' hout', Option.some.injEq] at hrun
    exact hrun.symm
  . intro hblank
    have hresult := (Node.alike_of_blank_eq (d := .generic) hblank .loosest).result
    rw [hout, hout', Except.ok.injEq] at hresult
    exact hresult

/--
Operators of one rank, of which one associates to the right and one does not associate.
-/
theorem same_text_iff_arrow :
    let arrow : Kind := .special "arrow" Kind.Standard.binaryOperator (some (.rightAssoc (-1)))
    let absent : Kind := .special "absent" Kind.Standard.unaryOperator (some (.nonassoc (-1)))
    let node (x : Literal) := Node.binary arrow "^" (.literal x)
      (.binary arrow "^" (.unary absent "!" (.column none "a")) .null)
    ∃ ops : Operators,
      ops.Over (node (.scalar (.text "x"))) ∧ ops.Over (node (.scalar (.int64 7))) ∧
      compile (node (.scalar (.text "x"))) = .ok ("(? ^ (!a) ^ NULL)", [.text "x"]) ∧
      compile (node (.scalar (.int64 7))) = .ok ("(? ^ (!a) ^ NULL)", [.int 7]) ∧
      (node (.scalar (.text "x"))).blank = (node (.scalar (.int64 7))).blank := by
  intro arrow absent node
  have hbang : IsSymbol "!" := .inl ⟨'!', rfl, by decide +kernel, by decide⟩
  have hcaret : IsSymbol "^" := .inl ⟨'^', rfl, by decide +kernel, by decide⟩
  let ops : Operators :=
    { prefixed := [⟨absent, "!"⟩]
      infixed := [⟨arrow, "^"⟩]
      isPrefixed := by simpa using ⟨rfl, rfl, by decide, by decide, hbang⟩
      isInfixed := by simpa using ⟨rfl, rfl, rfl, rfl, by decide, hcaret⟩
      prefixed_inj := by simp
      infixed_inj := by simp }
  have hname : ops.Named "a" := ⟨by decide +kernel, by decide, by simp [ops]⟩
  have harrow : (⟨arrow, "^"⟩ : Operator) ∈ ops.infixed := List.mem_singleton_self _
  have habsent : (⟨absent, "!"⟩ : Operator) ∈ ops.prefixed := List.mem_singleton_self _
  have hover (x : Literal) : ops.Over (node x) :=
    .infixed harrow (.literal x)
      (.infixed harrow (.prefixed habsent (.column nofun hname)) (.literal _))
  have hcompile : compile (node (.scalar (.text "x")))
      = .ok ("(? ^ (!a) ^ NULL)", [.text "x"]) := by
    simp only [node, arrow, absent, compile_eq_outcome]
    rfl
  have hcompile' : compile (node (.scalar (.int64 7))) = .ok ("(? ^ (!a) ^ NULL)", [.int 7]) := by
    simp only [node, arrow, absent, compile_eq_outcome]
    rfl
  exact ⟨ops, hover _, hover _, hcompile, hcompile',
    (same_text_iff ops (hover _) (hover _) hcompile hcompile').1 rfl⟩

end SqlExpr.Operators
