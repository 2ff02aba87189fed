import SqlExpr.Proofs.Node.Induction
import SqlExpr.Proofs.Outcome.Service

/-!
This module contains what the standard compiler makes of an expression, by recursion on the
expression and without a state: a text or an error, and the values that are bound on the way to it
(`Node.outcome`). Compiling in a state gives exactly this (`Compiler.computes_standard` in
`SqlExpr.Proofs.Outcome.Run`), so statements about the standard compiler are proved here.
-/

namespace SqlExpr

/--
A result together with the values that are bound until it is there. An error keeps the values that
were bound before it.
-/
structure Outcome (α : Type) where
  result : Except Error α
  values : List Value

namespace Outcome

variable {α β : Type}

instance : Monad Outcome where
  pure a := ⟨.ok a, []⟩
  bind o f :=
    match o.result with
    | .ok a => ⟨(f a).result, o.values ++ (f a).values⟩
    | .error e => ⟨.error e, o.values⟩

def fail (e : Error) : Outcome α := ⟨.error e, []⟩

@[simp]
theorem pure_eq (a : α) : (pure a : Outcome α) = ⟨.ok a, []⟩ := rfl

@[simp]
theorem ok_bind (a : α) (vs : List Value) (f : α → Outcome β) :
    (⟨.ok a, vs⟩ : Outcome α) >>= f = ⟨(f a).result, vs ++ (f a).values⟩ := rfl

@[simp]
theorem error_bind (e : Error) (vs : List Value) (f : α → Outcome β) :
    (⟨.error e, vs⟩ : Outcome α) >>= f = ⟨.error e, vs⟩ := rfl

theorem bind_eq_ok {o : Outcome α} {f : α → Outcome β} {b : β} {ws : List Value}
    (h : o >>= f = ⟨.ok b, ws⟩) :
    ∃ a us vs, o = ⟨.ok a, us⟩ ∧ f a = ⟨.ok b, vs⟩ ∧ ws = us ++ vs := by
  obtain ⟨result, us⟩ := o
  cases result with
  | error e => simp at h
  | ok a =>
    simp only [ok_bind, mk.injEq] at h
    refine ⟨a, us, (f a).values, rfl, ?_, h.2.symm⟩
    rw [← h.1]

theorem id_map_eq (o : Outcome α) : id <$> o = o := by
  obtain ⟨result, vs⟩ := o
  cases result <;> simp [Functor.map]

theorem bind_bind {γ : Type} (o : Outcome α) (f : α → Outcome β) (g : β → Outcome γ) :
    o >>= f >>= g = o >>= fun a => f a >>= g := by
  obtain ⟨result, us⟩ := o
  cases result with
  | error e => rfl
  | ok a =>
    simp only [ok_bind]
    cases hf : f a with
    | mk result vs => cases result <;> simp

instance : LawfulMonad Outcome :=
  .mk' Outcome id_map_eq (fun _ _ => rfl) bind_bind

def bracketed (own demanded : Precedence) (o : Outcome String) : Outcome String := do
  let text ← o
  pure (Compiler.bracket own demanded text)

def joined (written : String) (left right : Outcome String) : Outcome String := do
  let leftText ← left
  let rightText ← right
  pure (Handler.infixText leftText written rightText)

end Outcome

def Query.clauseTexts (keyword : String) (texts : List String) : List String :=
  if texts.isEmpty then [] else [keyword, ", ".intercalate texts]

def Query.text (q : Query String) : String :=
  " ".intercalate (["SELECT"] ++ (if q.distinct then ["DISTINCT"] else [])
    ++ [if q.columns.isEmpty then "*" else ", ".intercalate q.columns]
    ++ clauseTexts "FROM" q.sources ++ clauseTexts "WHERE" q.filter.toList
    ++ clauseTexts "GROUP BY" q.groups ++ clauseTexts "HAVING" q.groupFilter.toList
    ++ clauseTexts "ORDER BY" q.order ++ Handler.countClause "LIMIT" q.limit
    ++ Handler.countClause "OFFSET" q.offset)

namespace Node

/--
The precedence and the symbol that an operator between two operands is written with. A comparison
for equality with null is written as an identity test.
-/
def spelling? (kind : Kind) (symbol : String) (right : Node) : Option (Precedence × String) :=
  match kind.service? with
  | some .binary => some (kind.precedence, symbol)
  | some .equality =>
    if right.kind.isA Kind.Standard.null then
      let op : BinaryOp := if kind.isA Kind.Standard.notEqual then .isNot else .is
      some (op.kind.precedence, op.symbol)
    else
      some (kind.precedence, symbol)
  | _ => none

/--
The outcome of a node whose handler compiles no other node.
-/
def leafOutcome (d : Dialect) (node : Node) (demanded : Precedence) : Outcome String :=
  match node.kind.service? with
  | none => .fail (.noHandler node.kind.name)
  | some .null => .bracketed node.precedence demanded (pure d.nullKeyword)
  | some .value =>
    match node.value? with
    | none => .fail (node.mismatch .valued)
    | some v => .bracketed node.precedence demanded ⟨.ok d.placeholder, [v]⟩
  | some service => .fail (node.mismatch (service.form?.getD .valued))

mutual

/--
What the standard compiler makes of an expression from which a precedence is demanded.
-/
def outcome (d : Dialect) : Node → Precedence → Outcome String
  | .literal x, demanded => leafOutcome d (.literal x) demanded
  | .unary kind symbol operand, demanded =>
    if kind.service? = some .unary then
      .bracketed kind.precedence demanded do
        let text ← operand.outcome d kind.precedence
        pure (symbol ++ Handler.separator symbol text ++ text)
    else
      leafOutcome d (.unary kind symbol operand) demanded
  | .binary kind symbol left right, demanded =>
    match spelling? kind symbol right with
    | some (own, written) =>
      .bracketed own demanded (.joined written (left.outcome d (Handler.operandDemands own).1)
        (right.outcome d (Handler.operandDemands own).2))
    | none => leafOutcome d (.binary kind symbol left right) demanded
  | .chain kind keyword first rest, demanded =>
    if kind.service? = some .chain then
      .bracketed kind.precedence demanded do
        let text ← first.outcome d kind.precedence
        let texts ← outcomeAll d rest kind.precedence
        pure ((" " ++ keyword ++ " ").intercalate (text :: texts))
    else
      leafOutcome d (.chain kind keyword first rest) demanded
  | .call kind name args, demanded =>
    if kind.service? = some .call then
      .bracketed kind.precedence demanded do
        let texts ← outcomeAll d args .clause
        pure (name ++ "(" ++ ", ".intercalate texts ++ ")")
    else
      leafOutcome d (.call kind name args) demanded
  | .table name, demanded => .bracketed Kind.Standard.table.precedence demanded (pure name)
  | .column table? name, demanded =>
    .bracketed Kind.Standard.column.precedence demanded (pure (columnText table? name))
  | .select query, demanded =>
    .bracketed Kind.Standard.select.precedence demanded do
      let texts ← outcomeQuery d query
      pure texts.text
  | .setOperation op left right, demanded =>
    .bracketed op.kind.precedence demanded (.joined op.keyword
      (left.outcome d op.kind.precedence) (right.outcome d op.kind.precedence.nextTighter))
  | .foreign kind precedence value? children, demanded =>
    leafOutcome d (.foreign kind precedence value? children) demanded

def outcomeAll (d : Dialect) : List Node → Precedence → Outcome (List String)
  | [], _ => pure []
  | node :: nodes, demanded => do
    let text ← node.outcome d demanded
    let texts ← outcomeAll d nodes demanded
    pure (text :: texts)

def outcomeOption (d : Dialect) : Option Node → Outcome (Option String)
  | none => pure none
  | some node => do
    let text ← node.outcome d .clause
    pure (some text)

def outcomeQuery (d : Dialect) : Query Node → Outcome (Query String)
  | ⟨distinct, columns, sources, filter, groups, groupFilter, order, limit, offset⟩ => do
    let columns ← outcomeAll d columns .clause
    let sources ← outcomeAll d sources .clause
    let filter ← outcomeOption d filter
    let groups ← outcomeAll d groups .clause
    let groupFilter ← outcomeOption d groupFilter
    let order ← outcomeAll d order .clause
    pure ⟨distinct, columns, sources, filter, groups, groupFilter, order, limit, offset⟩

end

variable {d : Dialect} {kind : Kind} {demanded : Precedence}

theorem outcome_literal_of_isNull {x : Literal} (h : x.toValue.isNull = true) :
    (literal x).outcome d demanded = .bracketed .tightest demanded (pure d.nullKeyword) := by
  have hservice : x.kind.service? = some .null ∧ x.kind.precedence = .tightest := by
    rw [Literal.kind_of_isNull h]
    exact ⟨rfl, rfl⟩
  simp only [outcome, leafOutcome, precedence, Node.kind, hservice]

theorem outcome_literal_of_not_isNull {x : Literal} (h : x.toValue.isNull = false) :
    (literal x).outcome d demanded
      =
    .bracketed .tightest demanded ⟨.ok d.placeholder, [x.toValue]⟩ := by
  obtain ⟨hservice, hprecedence, _⟩ := Literal.kind_of_not_isNull h
  simp only [outcome, leafOutcome, precedence, Node.kind, hservice, hprecedence, value?]

/--
A node that is compiled without others fails, unless it is null or has a value.
-/
theorem leafOutcome_ne_ok {node : Node} (hnull : node.kind.isA Kind.Standard.null = false)
    (hvalue : node.value? = none) (text : String) (vs : List Value) :
    leafOutcome d node demanded ≠ ⟨.ok text, vs⟩ := by
  unfold leafOutcome
  split
  . simp [Outcome.fail]
  . next hservice =>
    rw [Kind.isA_null_of_service? hservice] at hnull
    cases hnull
  . simp [hvalue, Outcome.fail]
  . simp [Outcome.fail]

/-! The nodes that are compiled without others. -/

/--
Whether the handler of a node, if there is one, is not for nodes of this form. All that is left of
such a node then is its value, or null.
-/
def IsLeaf (node : Node) : Prop :=
  ∀ service form, node.kind.service? = some service → service.form? = some form →
    form ≠ .valued → node.hasForm form = false

theorem spelling?_eq_none_iff {symbol : String} {right : Node} :
    spelling? kind symbol right = none
      ↔
    ∀ service, kind.service? = some service → service.form? ≠ some .binary := by
  unfold spelling?
  cases kind.service? with
  | none => simp
  | some service =>
    cases service with
    | equality =>
      simp only [Service.form?]
      split <;> simp
    | _ => simp [Service.form?]

section

variable {symbol name : String} {left right operand : Node} {nodes : List Node}

theorem isLeaf_literal (x : Literal) : (literal x).IsLeaf := by
  intro service form hservice hform hne
  cases service <;> cases hform <;> first | rfl | contradiction

theorem isLeaf_unary (h : kind.service? ≠ some .unary) : (unary kind symbol operand).IsLeaf := by
  intro service form hservice hform hne
  cases service <;> cases hform <;> first | rfl | contradiction

theorem isLeaf_binary (h : spelling? kind symbol right = none) :
    (binary kind symbol left right).IsLeaf := by
  intro service form hservice hform hne
  have hnot := spelling?_eq_none_iff.1 h service hservice
  cases service <;> cases hform <;> first | rfl | contradiction

theorem isLeaf_chain (h : kind.service? ≠ some .chain) :
    (chain kind symbol operand nodes).IsLeaf := by
  intro service form hservice hform hne
  cases service <;> cases hform <;> first | rfl | contradiction

theorem isLeaf_call (h : kind.service? ≠ some .call) : (call kind name nodes).IsLeaf := by
  intro service form hservice hform hne
  cases service <;> cases hform <;> first | rfl | contradiction

theorem isLeaf_foreign (own : Precedence) (value? : Option Value) :
    (foreign kind own value? nodes).IsLeaf := by
  intro service form hservice hform hne
  cases service <;> cases hform <;> first | rfl | contradiction

end

theorem outcome_of_isLeaf {node : Node} (h : node.IsLeaf) :
    node.outcome d demanded = leafOutcome d node demanded := by
  -- A handler for the form of the node would make it no leaf.
  have hother (service : Service) (form : Form) (hform : service.form? = some form)
      (hne : form ≠ .valued) (hnode : node.hasForm form = true) :
      node.kind.service? ≠ some service := by
    intro hservice
    rw [h service form hservice hform hne] at hnode
    cases hnode
  cases node with
  | literal x => rfl
  | unary kind symbol operand =>
    have hservice : kind.service? ≠ some .unary := hother .unary .unary rfl (by decide) rfl
    unfold outcome
    rw [if_neg hservice]
  | binary kind symbol left right =>
    have hspelling : spelling? kind symbol right = none := by
      rw [spelling?_eq_none_iff]
      intro service hservice hform
      exact hother service .binary hform (by decide) rfl hservice
    unfold outcome
    rw [hspelling]
  | chain kind keyword first rest =>
    have hservice : kind.service? ≠ some .chain := hother .chain .chain rfl (by decide) rfl
    unfold outcome
    rw [if_neg hservice]
  | call kind name args =>
    have hservice : kind.service? ≠ some .call := hother .call .call rfl (by decide) rfl
    unfold outcome
    rw [if_neg hservice]
  | table name => exact absurd rfl (hother .table .table rfl (by decide) rfl)
  | column table? name => exact absurd rfl (hother .column .column rfl (by decide) rfl)
  | select query => exact absurd rfl (hother .select .select rfl (by decide) rfl)
  | setOperation op left right =>
    have hservice : op.kind.service? = some .setOperation := by cases op <;> rfl
    exact absurd hservice (hother .setOperation .setOperation rfl (by decide) rfl)
  | foreign kind own value? children => rfl

theorem outcome_chain (h : kind.service? = some .chain) (keyword : String) (first : Node)
    (rest : List Node) :
    (chain kind keyword first rest).outcome d demanded
      =
    .bracketed kind.precedence demanded (do
      let texts ← outcomeAll d (first :: rest) kind.precedence
      pure ((" " ++ keyword ++ " ").intercalate texts)) := by
  unfold outcome
  rw [if_pos h]
  simp only [outcomeAll, bind_assoc, pure_bind]

end Node

end SqlExpr
