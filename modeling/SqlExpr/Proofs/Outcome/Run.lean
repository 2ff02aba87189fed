import SqlExpr.Proofs.Outcome
import SqlExpr.Proofs.State.Guard
import SqlExpr.Proofs.State.Parameters

/-!
This module contains the proof that compiling with the standard compiler gives the outcome of the
expression, whatever the state: the text or the error of the outcome, and the state with the values
of the outcome added (`Compiler.computes_standard`). Nothing else of the state matters but whether it
has a list of parameters; without one the first value fails to be bound (`Outcome.resultIn`).

An action `Yields` an outcome if running it is going on with the result of the outcome in the state
with its values added. Every built-in handler is such an action, given that compiling its operands
is.
-/

namespace SqlExpr

namespace Outcome

variable {α : Type}

/--
The result of an outcome in a state. A state without a list of parameters fails at the first value.
-/
def resultIn (o : Outcome α) (s : State) : Except Error α :=
  match s.parameters with
  | .ok _ => o.result
  | .error e => if o.values.isEmpty then o.result else .error e

theorem resultIn_of_ok {s : State} {us : List Value} (h : s.parameters = .ok us) (o : Outcome α) :
    o.resultIn s = o.result := by
  simp only [resultIn, h]

theorem resultIn_of_error {s : State} {e : Error} (h : s.parameters = .error e) (o : Outcome α) :
    o.resultIn s = if o.values.isEmpty then o.result else .error e := by
  simp only [resultIn, h]

theorem resultIn_inner {frame : Frame} (h : frame.get? Attribute.parametersName = none) (s : State)
    (o : Outcome α) : o.resultIn (.inner frame s) = o.resultIn s := by
  unfold resultIn
  rw [State.parameters_inner h]

theorem values_map {β : Type} (f : α → β) (o : Outcome α) : (f <$> o).values = o.values := by
  obtain ⟨result, vs⟩ := o
  cases result <;> simp [Functor.map]

theorem resultIn_map {β : Type} (f : α → β) (o : Outcome α) (s : State) :
    (f <$> o).resultIn s = (o.resultIn s).map f := by
  unfold resultIn
  rw [values_map]
  obtain ⟨result, vs⟩ := o
  cases s.parameters with
  | ok us => cases result <;> rfl
  | error e => cases result <;> cases vs <;> rfl

theorem values_bracketed (o : Outcome String) (own p : Precedence) :
    (o.bracketed own p).values = o.values :=
  values_map (Compiler.bracket own p) o

theorem resultIn_bracketed (o : Outcome String) (own p : Precedence) (s : State) :
    (o.bracketed own p).resultIn s = (o.resultIn s).map (Compiler.bracket own p) :=
  resultIn_map (Compiler.bracket own p) o s

theorem resultIn_of_no_values {o : Outcome α} (h : o.values = []) (s : State) :
    o.resultIn s = o.result := by
  unfold resultIn
  rw [h]
  split <;> rfl

theorem resultIn_fail (e : Error) (s : State) : (fail e : Outcome α).resultIn s = .error e :=
  resultIn_of_no_values rfl s

end Outcome

namespace CompileFn

/--
Whether compiling a node gives its outcome in every state.
-/
def Computes (compile : CompileFn) (d : Dialect) (node : Node) : Prop :=
  ∀ p s,
    compile node p s = some ((node.outcome d p).resultIn s, s.addValues (node.outcome d p).values)

end CompileFn

def Demand.within (own : Precedence) : Demand → Precedence
  | .ambient => own
  | .exactly p => p

namespace Action

variable {α β : Type} {c : Compiler} {inner : CompileFn} {own : Precedence}

/--
Whether an action, in states that demand `own`, goes on with the result of an outcome after adding
its values, or ends with its error.
-/
def Yields (c : Compiler) (inner : CompileFn) (own : Precedence) (action : Action α)
    (o : Outcome α) : Prop :=
  ∀ (next : α → Program) (s : State), s.precedence = .ok own →
    (action next).run c inner s
      =
    match o.resultIn s with
    | .ok a => (next a).run c inner (s.addValues o.values)
    | .error e => some (.error e, s.addValues o.values)

theorem Yields.pure (a : α) : Yields c inner own (Pure.pure a) (Pure.pure a) := by
  intro next s hown
  rw [Outcome.resultIn_of_no_values rfl]
  simp only [Outcome.pure_eq, State.addValues_nil]
  rfl

theorem Yields.bind {action : Action α} {o : Outcome α} {f : α → Action β} {g : α → Outcome β}
    (haction : Yields c inner own action o) (hf : ∀ a, Yields c inner own (f a) (g a)) :
    Yields c inner own (action >>= f) (o >>= g) := by
  intro next s hown
  obtain ⟨result, vs⟩ := o
  change (action fun a => f a next).run c inner s = _
  rw [haction _ s hown]
  cases hs : s.parameters with
  | ok us =>
    rw [Outcome.resultIn_of_ok hs, Outcome.resultIn_of_ok hs]
    cases result with
    | error e => rfl
    | ok a =>
      simp only [Outcome.ok_bind]
      rw [hf a next _ (by simp [hown]), Outcome.resultIn_of_ok (State.parameters_addValues hs vs)]
      rw [State.addValues_addValues hs]
  | error e =>
    -- The state stays as it is, and the second part is reached only if the first has no values.
    simp only [Outcome.resultIn_of_error hs, State.addValues_of_error hs]
    cases vs with
    | cons v vs => cases result <;> rfl
    | nil =>
      cases result with
      | error e => rfl
      | ok a =>
        simp only [Outcome.ok_bind, List.isEmpty_nil, if_true, List.nil_append]
        rw [hf a next s hown, Outcome.resultIn_of_error hs, State.addValues_of_error hs]

theorem Yields.dialect : Yields c inner own Action.dialect (Pure.pure c.dialect) := by
  intro next s hown
  rw [Outcome.resultIn_of_no_values rfl]
  simp only [Outcome.pure_eq, State.addValues_nil]
  rfl

theorem Yields.bindValue (v : Value) :
    Yields c inner own (perform (.bind v)) ⟨.ok .done, [v]⟩ := by
  intro next s hown
  change (Program.perform (.bind v) fun result => ofExcept result next).run c inner s = _
  cases hs : s.parameters with
  | ok us =>
    have happly : (Operation.bind v).apply s = (.ok .done, s.addValues [v]) := by
      simp only [Operation.apply_eq, Operation.result, State.bind_eq_addValues hs]
    rw [Outcome.resultIn_of_ok hs]
    simp only [Program.run, happly]
    rfl
  | error e =>
    have happly : (Operation.bind v).apply s = (.error e, s) := by
      simp only [Operation.apply_eq, Operation.result, State.bind, hs]
    rw [Outcome.resultIn_of_error hs, State.addValues_of_error hs]
    simp only [Program.run, happly]
    rfl

theorem Yields.placeholder (v : Value) :
    Yields c inner own
      (do
        let _ ← perform (.bind v)
        let d ← Action.dialect
        Pure.pure d.placeholder)
      ⟨.ok c.dialect.placeholder, [v]⟩ := by
  have h : Yields c inner own _ _ :=
    .bind (.bindValue v) fun _ => .bind .dialect fun d => .pure d.placeholder
  exact h

theorem Yields.nullKeyword :
    Yields c inner own
      (do
        let d ← Action.dialect
        Pure.pure d.nullKeyword)
      (Pure.pure c.dialect.nullKeyword) := by
  have h : Yields c inner own _ _ := .bind .dialect fun d => .pure d.nullKeyword
  exact h

theorem Yields.compile {d : Dialect} {node : Node} (h : inner.Computes d node) (demand : Demand) :
    Yields c inner own (Action.compile node demand) (node.outcome d (demand.within own)) := by
  intro next s hown
  have hresolve : demand.resolve s = .ok (demand.within own) := by
    cases demand with
    | ambient => exact hown
    | exactly p => rfl
  change (Program.compile node demand fun result => ofExcept result next).run c inner s = _
  simp only [Program.run, CompileFn.withDemand, hresolve, h _ s]
  cases (node.outcome d (demand.within own)).resultIn s <;> rfl

theorem Yields.compileEach {d : Dialect} {nodes : List Node}
    (h : ∀ node ∈ nodes, inner.Computes d node) (demand : Demand) :
    Yields c inner own (Action.compileEach demand nodes)
      (Node.outcomeAll d nodes (demand.within own)) := by
  induction nodes with
  | nil =>
    unfold Node.outcomeAll
    apply Yields.pure
  | cons node nodes ih =>
    unfold Node.outcomeAll
    apply Yields.bind
    . apply Yields.compile (h _ List.mem_cons_self)
    . intro text
      apply Yields.bind
      . apply ih
        intro node hmem
        apply h _ (List.mem_cons_of_mem _ hmem)
      . intro texts
        apply Yields.pure

/-! The clauses of a query. -/

variable {d : Dialect} {nodes : List Node}

theorem Yields.listText (h : ∀ node ∈ nodes, inner.Computes d node) :
    Yields c inner own (Handler.listText nodes) (do
      let texts ← Node.outcomeAll d nodes .clause
      Pure.pure (", ".intercalate texts)) := by
  unfold Handler.listText
  apply Yields.bind (Yields.compileEach h .clause)
  intro texts
  apply Yields.pure

theorem Yields.columnsText (h : ∀ node ∈ nodes, inner.Computes d node) :
    Yields c inner own (Handler.columnsText nodes) (do
      let texts ← Node.outcomeAll d nodes .clause
      Pure.pure (if texts.isEmpty then "*" else ", ".intercalate texts)) := by
  -- The handler looks at the columns, and the outcome at their texts.
  cases nodes with
  | nil =>
    simp only [Node.outcomeAll, pure_bind]
    apply Yields.pure
  | cons node nodes =>
    have hlist : Yields c inner own _ _ := .listText h
    simp only [Node.outcomeAll, bind_assoc, pure_bind] at hlist ⊢
    exact hlist

theorem Yields.listClause (h : ∀ node ∈ nodes, inner.Computes d node) (keyword : String) :
    Yields c inner own (Handler.listClause keyword nodes) (do
      let texts ← Node.outcomeAll d nodes .clause
      Pure.pure (Query.clauseTexts keyword texts)) := by
  cases nodes with
  | nil =>
    simp only [Node.outcomeAll, pure_bind]
    apply Yields.pure
  | cons node nodes =>
    have hclause : Yields c inner own _ _ :=
      .bind (.listText h) fun text => .pure [keyword, text]
    simp only [Node.outcomeAll, bind_assoc, pure_bind] at hclause ⊢
    exact hclause

theorem Yields.optionClause {node? : Option Node} (h : ∀ node ∈ node?, inner.Computes d node)
    (keyword : String) :
    Yields c inner own (Handler.optionClause keyword node?) (do
      let text? ← Node.outcomeOption d node?
      Pure.pure (Query.clauseTexts keyword text?.toList)) := by
  cases node? with
  | none =>
    simp only [Node.outcomeOption, pure_bind]
    apply Yields.pure
  | some node =>
    simp only [Node.outcomeOption, bind_assoc, pure_bind]
    apply Yields.bind (Yields.compile (h _ rfl) .clause)
    intro text
    apply Yields.pure

end Action

namespace State

def demandFrame (own : Precedence) : Frame :=
  NameMap.empty.insert Attribute.precedenceName (.precedence own)

theorem push_precedence (s : State) (own : Precedence) :
    s.push (Bindings.empty.precedence own) = .ok (.inner (demandFrame own) s) := rfl

theorem cutTo_inner {s : State} {depth : Nat} (h : s.depth = depth) (frame : Frame) :
    (inner frame s).cutTo depth = s := by
  simp only [cutTo, h, Nat.lt_irrefl, if_false]
  rw [cutTo_of_depth_le (by omega)]

end State

namespace Compiler

/--
If the handler of a node yields an outcome, then compiling the node gives this outcome in brackets,
if the demand asks for them. The frame of the handler leaves no trace.
-/
theorem compileAt_of_yields {c : Compiler} {node : Node} {handler : Handler} {depth : Nat}
    {action : Action String} {o : Outcome String} (hlookup : c.lookup? node.kind = some handler)
    (hyields : action.Yields c (c.compileAt depth) node.precedence o)
    (hhandler : handler node = action.toSql) (p : Precedence) (s : State) :
    c.compileAt (depth + 1) node p s
      =
    some ((o.bracketed node.precedence p).resultIn s,
      s.addValues (o.bracketed node.precedence p).values) := by
  have hframe : (State.demandFrame node.precedence).get? Attribute.parametersName = none := rfl
  have hrun := hyields (fun text => .done (.sql text))
    (.inner (State.demandFrame node.precedence) s) rfl
  rw [State.addValues_inner hframe, Outcome.resultIn_inner hframe] at hrun
  rw [Outcome.resultIn_bracketed, Outcome.values_bracketed]
  simp only [compileAt, hlookup, State.scope_eq, State.push_precedence, hhandler, Action.toSql, hrun]
  cases o.resultIn s with
  | error e => simp [State.cutTo_inner, Except.map]
  | ok text => simp [Program.run, State.cutTo_inner, Except.map]

theorem compileAt_of_fail {c : Compiler} {node : Node} {handler : Handler} {depth : Nat} {e : Error}
    (hlookup : c.lookup? node.kind = some handler) (hhandler : handler node = .fail e)
    (p : Precedence) (s : State) :
    c.compileAt (depth + 1) node p s = some (.error e, s) := by
  simp [compileAt, hlookup, State.scope_eq, State.push_precedence, hhandler, Program.run,
    State.cutTo_inner]

theorem compileAt_of_replace {c : Compiler} {node replacement : Node} {handler : Handler}
    {depth : Nat} (hlookup : c.lookup? node.kind = some handler)
    (hhandler : handler node = .done (.replace replacement)) {p : Precedence} {s s' : State}
    {result : Except Error String} (h : c.compileAt depth replacement p s = some (result, s'))
    (hdepth : s'.depth = s.depth) :
    c.compileAt (depth + 1) node p s = some (result, s') := by
  have hcut : s'.cutTo s.depth = s' := State.cutTo_of_depth_le (by omega)
  simp only [compileAt, hlookup, State.scope_eq, State.push_precedence, hhandler, Program.run,
    State.parentView_eq, h, hcut, State.cutTo_inner hdepth]

end Compiler

theorem Service.handler_of_not_hasForm {service : Service} {form : Form} {node : Node}
    (hform : service.form? = some form) (h : node.hasForm form = false) :
    service.handler node = .fail (node.mismatch form) := by
  cases service with
  | value =>
    cases hform
    simp only [Node.hasForm, Option.isSome_eq_false_iff, Option.isNone_iff_eq_none] at h
    simp only [handler, Handler.value, h]
  | null => cases hform
  | _ =>
    cases hform
    cases node with
    | _ => first | rfl | cases h

namespace Compiler

variable {d : Dialect} {depth : Nat}

theorem computes_of_isLeaf {node : Node} (h : node.IsLeaf) :
    ((standard.withDialect d).compileAt (depth + 1)).Computes d node := by
  intro p s
  have hlookup := lookup?_standard d node.kind
  rw [Node.outcome_of_isLeaf h]
  cases hservice : node.kind.service? with
  | none =>
    rw [hservice] at hlookup
    have houtcome : node.leafOutcome d p = .fail (.noHandler node.kind.name) := by
      simp only [Node.leafOutcome, hservice]
    rw [houtcome, Outcome.resultIn_fail]
    simp [Outcome.fail, compileAt, hlookup]
  | some service =>
    rw [hservice] at hlookup
    have hmismatch (form : Form) (hform : service.form? = some form) (hne : form ≠ .valued)
        (houtcome : node.leafOutcome d p = .fail (node.mismatch form)) :
        (standard.withDialect d).compileAt (depth + 1) node p s
          =
        some ((node.leafOutcome d p).resultIn s, s.addValues (node.leafOutcome d p).values) := by
      have hnot := h service form hservice hform hne
      rw [houtcome, compileAt_of_fail hlookup (Service.handler_of_not_hasForm hform hnot)]
      rw [Outcome.resultIn_fail]
      simp [Outcome.fail]
    cases service with
    | value =>
      cases hvalue : node.value? with
      | none =>
        have houtcome : node.leafOutcome d p = .fail (node.mismatch .valued) := by
          simp only [Node.leafOutcome, hservice, hvalue]
        have hnot : node.hasForm .valued = false := by simp [Node.hasForm, hvalue]
        rw [houtcome, compileAt_of_fail hlookup (Service.handler_of_not_hasForm rfl hnot)]
        rw [Outcome.resultIn_fail]
        simp [Outcome.fail]
      | some v =>
        have hhandler : Service.value.handler node = Action.toSql (do
            let _ ← Action.perform (.bind v)
            let d ← Action.dialect
            pure d.placeholder) := by
          simp only [Service.handler, Handler.value, hvalue]
        have houtcome : node.leafOutcome d p
            = .bracketed node.precedence p ⟨.ok d.placeholder, [v]⟩ := by
          simp only [Node.leafOutcome, hservice, hvalue]
        rw [houtcome]
        apply compileAt_of_yields hlookup (Action.Yields.placeholder v) hhandler p s
    | null =>
      have hhandler : Service.null.handler node = Action.toSql (do
          let d ← Action.dialect
          pure d.nullKeyword) := rfl
      have houtcome : node.leafOutcome d p
          = .bracketed node.precedence p (pure d.nullKeyword) := by
        simp only [Node.leafOutcome, hservice]
      rw [houtcome]
      apply compileAt_of_yields hlookup Action.Yields.nullKeyword hhandler p s
    | _ =>
      apply hmismatch _ rfl (by decide)
      simp only [Node.leafOutcome, hservice, Service.form?, Option.getD_some]

variable {kind : Kind} {symbol name : String} {first left right operand : Node} {rest : List Node}

theorem lookup?_standard_of_service {service : Service} (h : kind.service? = some service) :
    (standard.withDialect d).lookup? kind = some service.handler := by
  rw [lookup?_standard, h]
  rfl

theorem computes_unary
    (hoperand : ((standard.withDialect d).compileAt depth).Computes d operand) :
    ((standard.withDialect d).compileAt (depth + 1)).Computes d (.unary kind symbol operand) := by
  by_cases hservice : kind.service? = some .unary
  . intro p s
    have hlookup := lookup?_standard_of_service (d := d) hservice
    unfold Node.outcome
    rw [if_pos hservice]
    have hyields : Action.Yields (standard.withDialect d) _ kind.precedence _ _ :=
      .bind (.compile hoperand .ambient) fun text =>
        .pure (symbol ++ Handler.separator symbol text ++ text)
    apply compileAt_of_yields hlookup hyields rfl p s
  . apply computes_of_isLeaf (Node.isLeaf_unary hservice)

theorem computes_chain
    (hoperands : ∀ node ∈ first :: rest,
      ((standard.withDialect d).compileAt depth).Computes d node) :
    ((standard.withDialect d).compileAt (depth + 1)).Computes d (.chain kind symbol first rest) := by
  by_cases hservice : kind.service? = some .chain
  . intro p s
    have hlookup := lookup?_standard_of_service (d := d) hservice
    rw [Node.outcome_chain hservice]
    have hyields : Action.Yields (standard.withDialect d) _ kind.precedence _ _ :=
      .bind (.compileEach hoperands .ambient) fun texts =>
        .pure ((" " ++ symbol ++ " ").intercalate texts)
    apply compileAt_of_yields hlookup hyields rfl p s
  . apply computes_of_isLeaf (Node.isLeaf_chain hservice)

theorem computes_call
    (hargs : ∀ node ∈ rest, ((standard.withDialect d).compileAt depth).Computes d node) :
    ((standard.withDialect d).compileAt (depth + 1)).Computes d (.call kind name rest) := by
  by_cases hservice : kind.service? = some .call
  . intro p s
    have hlookup := lookup?_standard_of_service (d := d) hservice
    unfold Node.outcome
    rw [if_pos hservice]
    have hyields : Action.Yields (standard.withDialect d) _ kind.precedence _ _ :=
      .bind (.compileEach hargs .clause) fun texts =>
        .pure (name ++ "(" ++ ", ".intercalate texts ++ ")")
    apply compileAt_of_yields hlookup hyields rfl p s
  . apply computes_of_isLeaf (Node.isLeaf_call hservice)

theorem computes_select {q : Query Node}
    (hparts : ∀ node ∈ q.parts, ((standard.withDialect d).compileAt depth).Computes d node) :
    ((standard.withDialect d).compileAt (depth + 1)).Computes d (.select q) := by
  obtain ⟨distinct, columns, sources, filter, groups, groupFilter, order, limit, offset⟩ := q
  rw [Query.forall_mem_parts] at hparts
  obtain ⟨hcolumns, hsources, hfilter, hgroups, hgroupFilter, horder⟩ := hparts
  intro p s
  have hservice : Kind.Standard.select.service? = some .select := rfl
  have hlookup := lookup?_standard_of_service (d := d) hservice
  have hyields : Action.Yields (standard.withDialect d) _ Kind.Standard.select.precedence _ _ :=
    .bind (.columnsText hcolumns) fun columns =>
    .bind (.listClause hsources "FROM") fun sources =>
    .bind (.optionClause hfilter "WHERE") fun filter =>
    .bind (.listClause hgroups "GROUP BY") fun groups =>
    .bind (.optionClause hgroupFilter "HAVING") fun groupFilter =>
    .bind (.listClause horder "ORDER BY") fun order =>
    .pure (" ".intercalate (["SELECT"] ++ (if distinct then ["DISTINCT"] else []) ++ [columns]
      ++ sources ++ filter ++ groups ++ groupFilter ++ order
      ++ Handler.countClause "LIMIT" limit ++ Handler.countClause "OFFSET" offset))
  simp only [bind_assoc, pure_bind] at hyields
  simp only [Node.outcome, Node.outcomeQuery, bind_assoc, pure_bind]
  apply compileAt_of_yields hlookup hyields rfl p s

theorem computes_setOperation {op : SetOp}
    (hleft : ((standard.withDialect d).compileAt depth).Computes d left)
    (hright : ((standard.withDialect d).compileAt depth).Computes d right) :
    ((standard.withDialect d).compileAt (depth + 1)).Computes d (.setOperation op left right) := by
  intro p s
  have hservice : op.kind.service? = some .setOperation := by cases op <;> rfl
  have hlookup := lookup?_standard_of_service (d := d) hservice
  have hyields : Action.Yields (standard.withDialect d) _ op.kind.precedence _ _ :=
    .bind (.compile hleft (.exactly op.kind.precedence)) fun leftText =>
    .bind (.compile hright (.exactly op.kind.precedence.nextTighter)) fun rightText =>
    .pure (Handler.infixText leftText op.keyword rightText)
  unfold Node.outcome
  apply compileAt_of_yields hlookup hyields rfl p s

theorem compileAt_joined {handler : Handler}
    (hlookup : (standard.withDialect d).lookup? kind = some handler)
    (hhandler : handler (.binary kind symbol left right)
      = Handler.binary (.binary kind symbol left right))
    (hleft : ((standard.withDialect d).compileAt depth).Computes d left)
    (hright : ((standard.withDialect d).compileAt depth).Computes d right) (p : Precedence)
    (s : State) {o : Outcome String}
    (ho : o = .bracketed kind.precedence p (.joined symbol
      (left.outcome d (Handler.operandDemands kind.precedence).1)
      (right.outcome d (Handler.operandDemands kind.precedence).2))) :
    (standard.withDialect d).compileAt (depth + 1) (.binary kind symbol left right) p s
      =
    some (o.resultIn s, s.addValues o.values) := by
  have hyields : Action.Yields (standard.withDialect d) _ kind.precedence _ _ :=
    .bind (.compile hleft (.exactly (Handler.operandDemands kind.precedence).1)) fun leftText =>
    .bind (.compile hright (.exactly (Handler.operandDemands kind.precedence).2)) fun rightText =>
    .pure (Handler.infixText leftText symbol rightText)
  rw [ho]
  apply compileAt_of_yields hlookup hyields hhandler p s

theorem computes_binary
    (hleft : ∀ n, depth ≤ n → ((standard.withDialect d).compileAt n).Computes d left)
    (hright : ∀ n, depth ≤ n → ((standard.withDialect d).compileAt n).Computes d right) :
    ((standard.withDialect d).compileAt (depth + 2)).Computes d
      (.binary kind symbol left right) := by
  have hle : depth ≤ depth + 1 := Nat.le_succ depth
  by_cases hbinary : kind.service? = some .binary
  . intro p s
    apply compileAt_joined (lookup?_standard_of_service hbinary) rfl (hleft _ hle) (hright _ hle)
      p s
    simp only [Node.outcome, Node.spelling?, hbinary]
  by_cases hequality : kind.service? = some .equality
  . intro p s
    have hlookup := lookup?_standard_of_service (d := d) hequality
    by_cases hnull : right.kind.isA Kind.Standard.null = true
    -- The identity test is compiled in place of the comparison, so one more compilation is open.
    . let op : BinaryOp := if kind.isA Kind.Standard.notEqual then .isNot else .is
      have hop : op.kind.service? = some .binary := by
        cases h : kind.isA Kind.Standard.notEqual <;> simp only [op, h] <;> rfl
      have hhandler : Service.equality.handler (.binary kind symbol left right)
          = .done (.replace (.binaryOp op left right)) := by
        simp only [Service.handler, Handler.equality, if_pos hnull, op]
      apply compileAt_of_replace hlookup hhandler
      . apply compileAt_joined (lookup?_standard_of_service hop) rfl (hleft _ (Nat.le_refl _))
          (hright _ (Nat.le_refl _)) p s
        simp only [Node.outcome, Node.spelling?, hequality, if_pos hnull, op]
      . apply State.depth_addValues
    . apply compileAt_joined hlookup _ (hleft _ hle) (hright _ hle) p s
      . simp only [Node.outcome, Node.spelling?, hequality, if_neg hnull]
      . simp only [Service.handler, Handler.equality, if_neg hnull]
  . apply computes_of_isLeaf
    apply Node.isLeaf_binary
    unfold Node.spelling?
    split <;> first | rfl | contradiction

theorem computes_standard (d : Dialect) {node : Node} {depth : Nat}
    (hdepth : 2 * node.height + 2 ≤ depth) :
    ((standard.withDialect d).compileAt depth).Computes d node := by
  -- Two open compilations for each level of the tree, because a comparison may be replaced.
  obtain ⟨depth, rfl⟩ : ∃ k, depth = k + 2 := ⟨depth - 2, by omega⟩
  induction node generalizing depth with
  | literal x => apply computes_of_isLeaf (Node.isLeaf_literal x)
  | unary kind symbol operand ih =>
    simp only [Node.height] at hdepth
    obtain ⟨depth, rfl⟩ : ∃ k, depth = k + 1 := ⟨depth - 1, by omega⟩
    apply computes_unary
    apply ih
    omega
  | binary kind symbol left right ihleft ihright =>
    simp only [Node.height] at hdepth
    apply computes_binary
    all_goals
      intro n hle
      obtain ⟨n, rfl⟩ : ∃ k, n = k + 2 := ⟨n - 2, by omega⟩
    . apply ihleft
      have : left.height ≤ Nat.max left.height right.height := Nat.le_max_left ..
      omega
    . apply ihright
      have : right.height ≤ Nat.max left.height right.height := Nat.le_max_right ..
      omega
  | chain kind keyword first rest ih =>
    simp only [Node.height] at hdepth
    obtain ⟨depth, rfl⟩ : ∃ k, depth = k + 1 := ⟨depth - 1, by omega⟩
    apply computes_chain
    intro node hmem
    apply ih node hmem
    have := Node.height_le_heightAll hmem
    simp only [Node.heightAll] at this
    omega
  | call kind name args ih =>
    simp only [Node.height] at hdepth
    obtain ⟨depth, rfl⟩ : ∃ k, depth = k + 1 := ⟨depth - 1, by omega⟩
    apply computes_call
    intro node hmem
    apply ih node hmem
    have := Node.height_le_heightAll hmem
    omega
  | table name =>
    intro p s
    have hservice : Kind.Standard.table.service? = some .table := rfl
    have hlookup := lookup?_standard_of_service (d := d) hservice
    apply compileAt_of_yields hlookup (Action.Yields.pure name) rfl p s
  | column table? name =>
    intro p s
    have hservice : Kind.Standard.column.service? = some .column := rfl
    have hlookup := lookup?_standard_of_service (d := d) hservice
    apply compileAt_of_yields hlookup (Action.Yields.pure (Node.columnText table? name)) rfl p s
  | select q ih =>
    simp only [Node.height] at hdepth
    obtain ⟨depth, rfl⟩ : ∃ k, depth = k + 1 := ⟨depth - 1, by omega⟩
    apply computes_select
    intro node hmem
    apply ih node hmem
    have := Node.height_le_heightQuery hmem
    omega
  | setOperation op left right ihleft ihright =>
    simp only [Node.height] at hdepth
    obtain ⟨depth, rfl⟩ : ∃ k, depth = k + 1 := ⟨depth - 1, by omega⟩
    apply computes_setOperation
    . apply ihleft
      have : left.height ≤ Nat.max left.height right.height := Nat.le_max_left ..
      omega
    . apply ihright
      have : right.height ≤ Nat.max left.height right.height := Nat.le_max_right ..
      omega
  | foreign kind precedence value? children ih =>
    apply computes_of_isLeaf (Node.isLeaf_foreign precedence value?)

end Compiler

end SqlExpr
