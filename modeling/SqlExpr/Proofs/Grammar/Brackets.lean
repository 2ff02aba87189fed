import SqlExpr.Proofs.Grammar.Weight

/-!
This module contains the proof that the standard compiler writes no bracket too many
(`compile_without_brackets`). The text of an expression weighs exactly what its phrase costs
(`Node.Proper.weighs`), and a text with a pair of brackets less weighs less, so it does not read as
this phrase any more.
-/

namespace SqlExpr

open Phrase (brackets)

/-! The weights of the texts that the compiler puts together. -/

theorem weight_number (n : Nat) : weight (Nat.repr n) = 0 := by
  unfold weight
  rw [Nat.toList_repr, List.countP_eq_zero]
  intro c hmem hc
  have hdigit := Nat.isDigit_of_mem_toDigits (by decide) (by decide) hmem
  simp only [Bool.or_eq_true, beq_iff_eq] at hc
  rcases hc with rfl | rfl
  all_goals cases hdigit

theorem weight_columnText (table? : Option String) (name : String) :
    weight (Node.columnText table? name) = table?.elim 0 weight + weight name := by
  have hdot : weight "." = 0 := by decide
  cases table? with
  | none => simp [Node.columnText]
  | some table => simp [Node.columnText, weight_append, hdot]

theorem weight_bracket (own p : Precedence) (text : String) :
    weight (Compiler.bracket own p text) = weight text + brackets own p := by
  have hopening : weight "(" = 1 := by decide
  have hclosing : weight ")" = 0 := by decide
  unfold Compiler.bracket brackets
  split
  . simp only [weight_append, hopening, hclosing]
    omega
  . rfl

theorem weight_prefixText (op : UnaryOp) (text : String) :
    weight (op.symbol ++ Handler.separator op.symbol text ++ text) = weight text := by
  have hsymbol : weight op.symbol = 0 := by cases op <;> decide
  have hseparator : weight (Handler.separator op.symbol text) = 0 := by
    simp only [Handler.separator]
    split <;> decide
  rw [weight_append, weight_append, hsymbol, hseparator]
  omega

theorem weight_infixText (left symbol right : String) :
    weight (Handler.infixText left symbol right)
      =
    weight left + weight symbol + weight right := by
  have hspace : weight " " = 0 := by decide
  simp only [Handler.infixText, weight_append, hspace, Nat.add_zero]

theorem weight_intercalate {separator : String} (h : weight separator = 0) (texts : List String) :
    weight (separator.intercalate texts) = (texts.map weight).sum := by
  induction texts with
  | nil => rfl
  | cons text texts ih =>
    cases texts with
    | nil => simp
    | cons second texts =>
      rw [String.intercalate_cons_cons, weight_append, weight_append, h, ih]
      simp

theorem weight_clauseTexts {keyword : String} (h : weight keyword = 0) (texts : List String) :
    ((Query.clauseTexts keyword texts).map weight).sum = (texts.map weight).sum := by
  have hcomma : weight ", " = 0 := by decide
  cases texts with
  | nil => rfl
  | cons text texts => simp [Query.clauseTexts, weight_intercalate hcomma, h]

theorem weight_countClause {keyword : String} (h : weight keyword = 0) (count? : Option UInt64) :
    ((Handler.countClause keyword count?).map weight).sum = 0 := by
  cases count? with
  | none => rfl
  | some count => simp [Handler.countClause, weight_number, h]

theorem weight_queryText (q : Query String) : weight q.text = (q.parts.map weight).sum := by
  have hspace : weight " " = 0 := by decide
  have hcolumns : weight (if q.columns.isEmpty then "*" else ", ".intercalate q.columns)
      = (q.columns.map weight).sum := by
    cases q.columns with
    | nil => rfl
    | cons column columns => exact weight_intercalate (by decide) (column :: columns)
  have hdistinct : ((if q.distinct then ["DISTINCT"] else []).map weight).sum = 0 := by
    cases q.distinct <;> decide
  have hselect : weight "SELECT" = 0 := by decide
  have hsources := weight_clauseTexts (by decide : weight "FROM" = 0) q.sources
  have hfilter := weight_clauseTexts (by decide : weight "WHERE" = 0) q.filter.toList
  have hgroups := weight_clauseTexts (by decide : weight "GROUP BY" = 0) q.groups
  have hgroupFilter := weight_clauseTexts (by decide : weight "HAVING" = 0) q.groupFilter.toList
  have horder := weight_clauseTexts (by decide : weight "ORDER BY" = 0) q.order
  have hlimit := weight_countClause (by decide : weight "LIMIT" = 0) q.limit
  have hoffset := weight_countClause (by decide : weight "OFFSET" = 0) q.offset
  unfold Query.text Query.parts
  rw [weight_intercalate hspace]
  simp only [List.map_append, List.sum_append, List.map_cons, List.map_nil, List.sum_cons,
    List.sum_nil, hcolumns, hdistinct, hselect, hsources, hfilter, hgroups, hgroupFilter, horder,
    hlimit, hoffset]
  omega

/-! What the texts of expressions weigh. -/

namespace Outcome

theorem Gives.weighs_bracketed {o : Outcome String} {n : Nat} (h : Gives (weight · = n) o)
    (own p : Precedence) : Gives (weight · = n + brackets own p) (o.bracketed own p) := by
  apply h.bind
  intro text htext
  apply Gives.pure
  rw [weight_bracket, htext]

end Outcome

namespace Node

/--
Whether an expression is made of built-in nodes of their built-in kinds, whatever the names in it
are, and every chain in it has two operands or more.
-/
inductive Proper : Node → Prop where
  | literal (x : Literal) : Proper (.literal x)
  | unary (op : UnaryOp) {operand : Node} (hoperand : Proper operand) :
      Proper (.unaryOp op operand)
  | binary (op : BinaryOp) {left right : Node} (hleft : Proper left) (hright : Proper right) :
      Proper (.binaryOp op left right)
  | chain (op : ChainOp) {first : Node} {rest : List Node} (hrest : rest ≠ [])
      (hoperands : ∀ node ∈ first :: rest, Proper node) :
      Proper (.chain op.kind op.keyword first rest)
  | call {kind : Kind} {args : List Node} (name : String)
      (hkind : kind ∈ [Kind.Standard.function, Kind.Standard.min, Kind.Standard.max,
        Kind.Standard.sqrt, Kind.Standard.power])
      (hargs : ∀ node ∈ args, Proper node) : Proper (.call kind name args)
  | table (name : String) : Proper (.table name)
  | column (table? : Option String) (name : String) : Proper (.column table? name)
  | select {query : Query Node} (hparts : ∀ node ∈ query.parts, Proper node) :
      Proper (.select query)
  | setOperation (op : SetOp) {left right : Node} (hleft : Proper left) (hright : Proper right) :
      Proper (.setOperation op left right)

theorem Proper.isA_null {node : Node} (h : node.Proper) :
    node.kind.isA Kind.Standard.null = node.isNullLiteral := by
  cases h with
  | literal x => apply isA_null_literal
  | unary op => cases op <;> rfl
  | binary op => cases op <;> rfl
  | chain op => cases op <;> rfl
  | setOperation op => cases op <;> rfl
  | call name hkind =>
    simp only [List.mem_cons, List.not_mem_nil, or_false] at hkind
    rcases hkind with rfl | rfl | rfl | rfl | rfl <;> rfl
  | _ => rfl

/--
Whether the text of an expression weighs what the phrase of the expression costs, whatever is
demanded.
-/
def Weighs (node : Node) : Prop :=
  ∀ p, Outcome.Gives (weight · = node.phrase.canonical.costAt p) (node.outcome .generic p)

theorem weighs_literal (x : Literal) : Weighs (.literal x) := by
  intro p
  cases hnull : x.toValue.isNull with
  | true =>
    rw [outcome_literal_of_isNull hnull, phrase, if_pos hnull]
    have hkeyword : Outcome.Gives (weight · = 0) (pure "NULL") := .pure (by decide)
    exact hkeyword.weighs_bracketed .tightest p
  | false =>
    rw [outcome_literal_of_not_isNull hnull, phrase, if_neg (by simp [hnull])]
    have hplaceholder : Outcome.Gives (weight · = 0) ⟨.ok "?", [x.toValue]⟩ :=
      ⟨_, _, rfl, by decide⟩
    exact hplaceholder.weighs_bracketed .tightest p

theorem weighs_unary (op : UnaryOp) {operand : Node} (h : Weighs operand) :
    Weighs (.unaryOp op operand) := by
  intro p
  have hservice : op.kind.service? = some .unary := by cases op <;> rfl
  unfold unaryOp outcome phrase Phrase.canonical
  rw [if_pos hservice, Phrase.costAt_prefixed]
  apply Outcome.Gives.weighs_bracketed
  apply (h _).bind
  intro text htext
  apply Outcome.Gives.pure
  rw [weight_prefixText, htext]

theorem weighs_joined (op : Infix) {left right : Node} (hleft : Weighs left)
    (hright : Weighs right) (p : Precedence) :
    Outcome.Gives
      (weight · = (Phrase.infixed op.symbol left.phrase.canonical right.phrase.canonical).costAt p)
      (.bracketed op.precedence p (.joined op.symbol
        (left.outcome .generic (Handler.operandDemands op.precedence).1)
        (right.outcome .generic (Handler.operandDemands op.precedence).2))) := by
  rw [Phrase.costAt_infixed]
  apply Outcome.Gives.weighs_bracketed
  apply (hleft _).bind
  intro leftText hleft
  apply (hright _).bind
  intro rightText hright
  apply Outcome.Gives.pure
  rw [weight_infixText, hleft, hright]

theorem weighs_binary (op : BinaryOp) {left right : Node}
    (hnull : right.kind.isA Kind.Standard.null = right.isNullLiteral) (hleft : Weighs left)
    (hright : Weighs right) : Weighs (.binaryOp op left right) := by
  intro p
  unfold binaryOp outcome phrase Phrase.canonical
  rw [spelling?_eq op hnull, writtenSymbol_eq]
  apply weighs_joined (.operator (writtenOp op right)) hleft hright

theorem weighs_setOperation (op : SetOp) {left right : Node} (hleft : Weighs left)
    (hright : Weighs right) : Weighs (.setOperation op left right) := by
  intro p
  have hdemands : Handler.operandDemands op.kind.precedence
      = (op.kind.precedence, op.kind.precedence.nextTighter) := by cases op <;> rfl
  have hjoined := weighs_joined (.setOperation op) hleft hright p
  simp only [Infix.precedence, hdemands] at hjoined
  unfold outcome phrase Phrase.canonical
  exact hjoined

theorem weighs_all {nodes : List Node} (h : ∀ node ∈ nodes, Weighs node) (p : Precedence) :
    Outcome.Gives
      (fun texts => (texts.map weight).sum
        = ((phraseAll nodes).map fun t => t.canonical.costAt p).sum)
      (outcomeAll .generic nodes p) := by
  induction nodes with
  | nil => exact .pure rfl
  | cons node nodes ih =>
    rw [List.forall_mem_cons] at h
    unfold outcomeAll phraseAll
    apply (h.1 p).bind
    intro text htext
    apply (ih h.2).bind
    intro texts htexts
    apply Outcome.Gives.pure
    rw [List.map_cons, List.sum_cons, htext, htexts, List.map_cons, List.sum_cons]

theorem weighs_option {node? : Option Node} (h : ∀ node ∈ node?, Weighs node) :
    Outcome.Gives
      (fun text? => (text?.toList.map weight).sum
        = ((phraseOption node?).toList.map fun t => t.canonical.costAt .clause).sum)
      (outcomeOption .generic node?) := by
  cases node? with
  | none => exact .pure rfl
  | some node =>
    unfold outcomeOption phraseOption
    apply (h node rfl .clause).bind
    intro text htext
    apply Outcome.Gives.pure
    simpa using htext

theorem weighs_chain (op : ChainOp) {first : Node} {rest : List Node}
    (htwo : 2 ≤ (Phrase.operandsAll op.keyword (phraseAll (first :: rest))).length)
    (h : ∀ node ∈ first :: rest, Weighs node) :
    Weighs (.chain op.kind op.keyword first rest) := by
  intro p
  have hservice : op.kind.service? = some .chain := by cases op <;> rfl
  have hkeyword : weight (" " ++ op.keyword ++ " ") = 0 := by cases op <;> decide
  have hcost : (Phrase.chained op.keyword (phraseAll (first :: rest))).canonical.costAt p
      = ((phraseAll (first :: rest)).map fun t => t.canonical.costAt op.kind.precedence).sum
        + brackets op.kind.precedence p := by
    rw [Phrase.canonical, Phrase.ofOperands_of_two_le htwo, Phrase.costAt, Phrase.cost_chained,
      Phrase.costAll_operandsAll, Phrase.precedence, Phrase.chainedPrecedence_keyword]
  rw [outcome_chain hservice]
  change Outcome.Gives (weight · = (Phrase.chained op.keyword _).canonical.costAt p) _
  rw [← phraseAll, hcost]
  apply Outcome.Gives.weighs_bracketed
  apply (weighs_all h _).bind
  intro texts htexts
  apply Outcome.Gives.pure
  rw [weight_intercalate hkeyword, htexts]

theorem weighs_call {kind : Kind} {args : List Node} (name : String)
    (hkind : kind ∈ [Kind.Standard.function, Kind.Standard.min, Kind.Standard.max,
      Kind.Standard.sqrt, Kind.Standard.power])
    (h : ∀ node ∈ args, Weighs node) : Weighs (.call kind name args) := by
  intro p
  have hservice : kind.service? = some .call ∧ kind.precedence = .tightest := by
    simp only [List.mem_cons, List.not_mem_nil, or_false] at hkind
    rcases hkind with rfl | rfl | rfl | rfl | rfl <;> exact ⟨rfl, rfl⟩
  have hopening : weight "(" = 1 := by decide
  have hclosing : weight ")" = 0 := by decide
  unfold outcome phrase Phrase.canonical
  rw [if_pos hservice.1, hservice.2, Phrase.costAt_call, Phrase.canonicalAll_eq_map, List.map_map]
  apply Outcome.Gives.weighs_bracketed
  apply (weighs_all h .clause).bind
  intro texts htexts
  apply Outcome.Gives.pure
  simp only [weight_append, hopening, hclosing,
    weight_intercalate (by decide : weight ", " = 0), htexts, Function.comp_def]
  omega

theorem weighs_select {q : Query Node} (h : ∀ node ∈ q.parts, Weighs node) :
    Weighs (.select q) := by
  obtain ⟨distinct, columns, sources, filter, groups, groupFilter, order, limit, offset⟩ := q
  rw [Query.forall_mem_parts] at h
  obtain ⟨hcolumns, hsources, hfilter, hgroups, hgroupFilter, horder⟩ := h
  intro p
  unfold outcome outcomeQuery phrase Phrase.canonical
  rw [Phrase.costAt_select, canonicalQuery_eq_map, Query.parts_map, List.map_map]
  apply Outcome.Gives.weighs_bracketed
  simp only [bind_assoc, pure_bind]
  apply (weighs_all hcolumns .clause).bind
  intro columnTexts hcolumns
  apply (weighs_all hsources .clause).bind
  intro sourceTexts hsources
  apply (weighs_option hfilter).bind
  intro filterText hfilter
  apply (weighs_all hgroups .clause).bind
  intro groupTexts hgroups
  apply (weighs_option hgroupFilter).bind
  intro groupFilterText hgroupFilter
  apply (weighs_all horder .clause).bind
  intro orderTexts horder
  apply Outcome.Gives.pure
  rw [weight_queryText]
  simp only [Query.parts, phraseQuery, List.map_append, List.sum_append, Function.comp_def] at *
  rw [hcolumns, hsources, hfilter, hgroups, hgroupFilter, horder]

theorem phraseAll_eq_map (nodes : List Node) : phraseAll nodes = nodes.map phrase := by
  induction nodes with
  | nil => rfl
  | cons node nodes ih =>
    unfold phraseAll
    rw [ih]
    rfl

theorem two_le_length_operands {first : Node} {rest : List Node} (hrest : rest ≠ [])
    (h : ∀ node ∈ first :: rest, ∀ keyword ts,
      node.phrase.canonical = .chained keyword ts → 2 ≤ ts.length) (keyword : String) :
    2 ≤ (Phrase.operandsAll keyword (phraseAll (first :: rest))).length := by
  have hpos := List.length_pos_iff.2 hrest
  rw [phraseAll_eq_map]
  apply Phrase.two_le_length_operandsAll
  . simp only [List.length_map, List.length_cons]
    omega
  . intro t hmem
    obtain ⟨node, hnode, heq⟩ := List.mem_map.1 hmem
    rw [← heq]
    apply h node hnode

theorem Proper.two_le_length {node : Node} (h : node.Proper) :
    ∀ keyword ts, node.phrase.canonical = .chained keyword ts → 2 ≤ ts.length := by
  induction h with
  | literal x =>
    intro keyword ts heq
    unfold phrase at heq
    split at heq <;> cases heq
  | chain op hrest hoperands ih =>
    have htwo := two_le_length_operands hrest ih op.keyword
    intro keyword ts heq
    change Phrase.ofOperands op.keyword _ = _ at heq
    rw [← phraseAll, Phrase.ofOperands_of_two_le htwo] at heq
    cases heq
    exact htwo
  | _ =>
    intro keyword ts heq
    cases heq

theorem Proper.weighs {node : Node} (h : node.Proper) : Weighs node := by
  induction h with
  | literal x => apply weighs_literal
  | unary op _ ih => apply weighs_unary op ih
  | binary op _ hright ihleft ihright => apply weighs_binary op hright.isA_null ihleft ihright
  | chain op hrest hoperands ih =>
    have htwo := two_le_length_operands hrest
      (fun node hmem => (hoperands node hmem).two_le_length) op.keyword
    apply weighs_chain op htwo ih
  | call name hkind _ ih => apply weighs_call name hkind ih
  | table name =>
    intro p
    have htext : Outcome.Gives (weight · = 0 + weight name) (pure name) := .pure (by simp)
    exact htext.weighs_bracketed .tightest p
  | column table? name =>
    intro p
    have htext : Outcome.Gives (weight · = table?.elim 0 weight + weight name)
      (pure (columnText table? name)) := .pure (weight_columnText table? name)
    exact htext.weighs_bracketed .tightest p
  | select _ ih => apply weighs_select ih
  | setOperation op _ _ ihleft ihright => apply weighs_setOperation op ihleft ihright

end Node

/--
The text of a statement has no bracket too many: without an opening and a closing one it does not
read as what the statement says, even if they belong to a call.
-/
theorem compile_without_brackets {node : Node} (h : node.Proper) :
    ∃ text vs, compile node = .ok (text, vs) ∧
      ∀ before inside after, text = before ++ "(" ++ inside ++ ")" ++ after →
        ∀ p t, .loosest ≤ p → Reads p (tokens (before ++ inside ++ after)) t →
          t.identified.canonical ≠ node.phrase.canonical := by
  obtain ⟨text, vs, hout, hweight⟩ := h.weighs .loosest
  refine ⟨text, vs, ?_, ?_⟩
  . rw [compile_eq_outcome, hout]
    rfl
  . intro before inside after htext p t hp hreads hcanonical
    have hopening : weight "(" = 1 := by decide
    have hcost := hreads.costAt_le
    have htokens := weightAll_tokens_le (before ++ inside ++ after)
    have hmono := Phrase.costAt_mono node.phrase.canonical hp
    rw [hcanonical] at hcost
    rw [htext] at hweight
    simp only [weight_append, hopening] at hweight htokens
    omega

/--
An identity test as an operand. Without its brackets it would be the test of a product.
-/
theorem compile_without_brackets_identity :
    let test := Node.binaryOp .equal (.column none "a") .null
    let node := Node.binaryOp .multiply (.scalar (.int64 2)) test
    node.Proper ∧ compile node = .ok ("? * (a IS NULL)", [.int 2]) ∧
      ∀ p t, .loosest ≤ p → Reads p (tokens "? * a IS NULL") t →
        t.identified.canonical ≠ node.phrase.canonical := by
  intro test node
  have hnode : node.Proper :=
    .binary .multiply (.literal _) (.binary .equal (.column _ _) (.literal _))
  have hcompile : compile node = .ok ("? * (a IS NULL)", [.int 2]) := by
    simp only [node, test, compile_eq_outcome]
    rfl
  obtain ⟨text, vs, htext, hbrackets⟩ := compile_without_brackets hnode
  rw [hcompile] at htext
  cases htext
  have hwithout := hbrackets "? * " "a IS NULL" "" (by decide)
  rw [show "? * " ++ "a IS NULL" ++ "" = "? * a IS NULL" by decide] at hwithout
  exact ⟨hnode, hcompile, hwithout⟩

end SqlExpr
