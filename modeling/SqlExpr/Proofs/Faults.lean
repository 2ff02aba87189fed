import SqlExpr.Proofs.AnyState

/-!
This module contains which expressions the standard compiler accepts, and what a failure leaves
(`Compiler.compiles_unless_faulty`). The compiler visits the nodes of an expression from the top
down and from left to right (`Node.visited`), and stops at the first one that is at fault on its own
(`Node.fault?`). The values of the nodes before it stay bound.
-/

namespace SqlExpr

namespace Node

/--
What is wrong with a node, whatever its parts are: there is no handler for its kind, or the one that
there is needs a node of another form.
-/
def fault? (node : Node) : Option Error :=
  match node.kind.service? with
  | none => some (.noHandler node.kind.name)
  | some service =>
    match service.form? with
    | none => none
    | some form => if node.hasForm form then none else some (node.mismatch form)

/--
The value that is bound for a node, if its kind is one of values.
-/
def boundValue? (node : Node) : Option Value :=
  if node.kind.service? = some .value then node.value? else none

/--
What is visited below a node of a kind: nothing if the node is a value or null.
-/
def visitedBelow (kind : Kind) (nodes : List Node) : List Node :=
  if kind.service? = some .value ∨ kind.service? = some .null then [] else nodes

mutual

/--
The nodes of an expression in the order in which they are compiled.
-/
def visited : Node → List Node
  | .literal x => [.literal x]
  | .unary kind symbol operand => .unary kind symbol operand :: visitedBelow kind operand.visited
  | .binary kind symbol left right =>
    .binary kind symbol left right :: visitedBelow kind (left.visited ++ right.visited)
  | .chain kind keyword first rest =>
    .chain kind keyword first rest :: visitedBelow kind (first.visited ++ visitedAll rest)
  | .call kind name args => .call kind name args :: visitedBelow kind (visitedAll args)
  | .table name => [.table name]
  | .column table? name => [.column table? name]
  | .select query => .select query :: visitedQuery query
  | .setOperation op left right => .setOperation op left right :: (left.visited ++ right.visited)
  | .foreign kind precedence value? children =>
    .foreign kind precedence value? children :: visitedBelow kind (visitedAll children)

def visitedAll : List Node → List Node
  | [] => []
  | node :: nodes => node.visited ++ visitedAll nodes

def visitedOption : Option Node → List Node
  | none => []
  | some node => node.visited

def visitedQuery : Query Node → List Node
  | ⟨_, columns, sources, filter, groups, groupFilter, order, _, _⟩ =>
    visitedAll columns ++ (visitedAll sources ++ (visitedOption filter ++ (visitedAll groups ++
      (visitedOption groupFilter ++ visitedAll order))))

end

theorem visitedAll_eq_flatMap (nodes : List Node) : visitedAll nodes = nodes.flatMap visited := by
  induction nodes with
  | nil => rfl
  | cons node nodes ih => rw [visitedAll, ih, List.flatMap_cons]

theorem visitedOption_eq_flatMap (node? : Option Node) :
    visitedOption node? = node?.toList.flatMap visited := by
  cases node? with
  | none => rfl
  | some node => simp [visitedOption]

theorem visitedQuery_eq_flatMap (q : Query Node) : visitedQuery q = q.parts.flatMap visited := by
  obtain ⟨distinct, columns, sources, filter, groups, groupFilter, order, limit, offset⟩ := q
  simp only [visitedQuery, Query.parts, visitedAll_eq_flatMap, visitedOption_eq_flatMap,
    List.flatMap_append, List.append_assoc]

end Node

namespace Outcome

variable {α β : Type} {o : Outcome α} {node : Node} {nodes others : List Node}

/--
Whether an outcome is one of visiting nodes: all of them without a fault, or those before the first
fault, which is the error.
-/
inductive Visits (o : Outcome α) (nodes : List Node) : Prop where
  | all (a : α) (hfine : ∀ part ∈ nodes, part.fault? = none)
    (ho : o = ⟨.ok a, nodes.filterMap Node.boundValue?⟩)
  | upTo (e : Error) (before : List Node) (faulty : Node) (after : List Node)
    (hnodes : nodes = before ++ faulty :: after) (hbefore : ∀ part ∈ before, part.fault? = none)
    (hfaulty : faulty.fault? = some e) (ho : o = ⟨.error e, before.filterMap Node.boundValue?⟩)

theorem Visits.pure (a : α) : (Pure.pure a : Outcome α).Visits [] := by
  apply Visits.all a
  . simp
  . rfl

theorem Visits.fail {e : Error} (h : node.fault? = some e) (nodes : List Node) :
    (fail e : Outcome α).Visits (node :: nodes) := by
  apply Visits.upTo e [] node nodes
  . rfl
  . simp
  . apply h
  . rfl

theorem Visits.value {a : α} {v : Value} (hfault : node.fault? = none)
    (hvalue : node.boundValue? = some v) : Visits ⟨.ok a, [v]⟩ [node] := by
  apply Visits.all a
  . simpa using hfault
  . simp [hvalue]

theorem Visits.bind {f : α → Outcome β} (h : o.Visits nodes) (hf : ∀ a, (f a).Visits others) :
    (o >>= f).Visits (nodes ++ others) := by
  cases h with
  | upTo e before faulty after hnodes hbefore hfaulty ho =>
    apply Visits.upTo e before faulty (after ++ others) _ hbefore hfaulty
    . rw [ho, error_bind]
    . rw [hnodes, List.append_assoc, List.cons_append]
  | all a hfine ho =>
    rw [ho, ok_bind]
    cases hf a with
    | all b hothers ha =>
      apply Visits.all b
      . simpa [or_imp, forall_and] using ⟨hfine, hothers⟩
      . rw [ha, List.filterMap_append]
    | upTo e before faulty after hnodes hbefore hfaulty ha =>
      apply Visits.upTo e (nodes ++ before) faulty after _ _ hfaulty
      . rw [ha, List.filterMap_append]
      . rw [hnodes, List.append_assoc]
      . simpa [or_imp, forall_and] using ⟨hfine, hbefore⟩

theorem Visits.cons (hfault : node.fault? = none) (hvalue : node.boundValue? = none)
    (h : o.Visits nodes) : o.Visits (node :: nodes) := by
  have hnode : Visits ⟨.ok (), []⟩ [node] := by
    apply Visits.all ()
    . simpa using hfault
    . simp [hvalue]
  apply hnode.bind fun _ => h

theorem Visits.map (h : o.Visits nodes) (f : α → β) :
    (o >>= fun a => Pure.pure (f a)).Visits nodes := by
  rw [← List.append_nil nodes]
  apply h.bind
  intro a
  apply Visits.pure

theorem Visits.joined {left right : Outcome String} (hleft : left.Visits nodes)
    (hright : right.Visits others) (written : String) :
    (Outcome.joined written left right).Visits (nodes ++ others) := by
  apply hleft.bind
  intro leftText
  apply hright.map

end Outcome

namespace Node

variable {d : Dialect}

theorem fault?_of_service {node : Node} {service : Service} {form : Form}
    (h : node.kind.service? = some service) (hform : service.form? = some form) :
    node.fault? = if node.hasForm form then none else some (node.mismatch form) := by
  simp only [fault?, h, hform]

theorem boundValue?_of_service {node : Node} {service : Service}
    (h : node.kind.service? = some service) (hne : service ≠ .value) : node.boundValue? = none := by
  simp [boundValue?, h, hne]

theorem visitedBelow_of_service {kind : Kind} {service : Service} (h : kind.service? = some service)
    (hvalue : service ≠ .value) (hnull : service ≠ .null) (nodes : List Node) :
    visitedBelow kind nodes = nodes := by
  simp [visitedBelow, h, hvalue, hnull]

theorem visitedBelow_nil (kind : Kind) : visitedBelow kind [] = [] := by
  simp [visitedBelow]

/--
A node of the form that its handler needs is not at fault, so its parts are visited.
-/
theorem visits_parts (node : Node) {service : Service} {form : Form} {o : Outcome String}
    {nodes : List Node} (h : node.kind.service? = some service) (hform : service.form? = some form)
    (hvalued : form ≠ .valued) (hnode : node.hasForm form = true) (ho : o.Visits nodes)
    (own p : Precedence) :
    (o.bracketed own p).Visits (node :: visitedBelow node.kind nodes) := by
  have hvalue : service ≠ .value := by
    intro heq
    rw [heq] at hform
    cases hform
    contradiction
  have hnull : service ≠ .null := by
    intro heq
    rw [heq] at hform
    cases hform
  rw [visitedBelow_of_service h hvalue hnull]
  apply Outcome.Visits.cons
  . rw [fault?_of_service h hform, if_pos hnode]
  . apply boundValue?_of_service h hvalue
  . apply ho.map

theorem visits_of_isLeaf {node : Node} (h : node.IsLeaf) (p : Precedence) (nodes : List Node) :
    (node.outcome d p).Visits (node :: visitedBelow node.kind nodes) := by
  rw [outcome_of_isLeaf h]
  cases hservice : node.kind.service? with
  | none =>
    have hfault : node.fault? = some (.noHandler node.kind.name) := by
      simp only [fault?, hservice]
    simp only [leafOutcome, hservice]
    apply Outcome.Visits.fail hfault
  | some service =>
    have hmismatch (form : Form) (hform : service.form? = some form) (hne : form ≠ .valued) :
        (Outcome.fail (node.mismatch form) : Outcome String).Visits
          (node :: visitedBelow node.kind nodes) := by
      apply Outcome.Visits.fail
      rw [fault?_of_service hservice hform, h service form hservice hform hne]
      rfl
    cases service with
    | value =>
      have hfault := fault?_of_service hservice rfl
      have hbelow : visitedBelow node.kind nodes = [] := by simp [visitedBelow, hservice]
      cases hvalue : node.value? with
      | none =>
        simp only [leafOutcome, hservice, hvalue]
        apply Outcome.Visits.fail
        rw [hfault]
        simp [hasForm, hvalue]
      | some v =>
        simp only [leafOutcome, hservice, hvalue]
        rw [hbelow]
        apply Outcome.Visits.map
        apply Outcome.Visits.value
        . rw [hfault]
          simp [hasForm, hvalue]
        . simp [boundValue?, hservice, hvalue]
    | null =>
      have hfault : node.fault? = none := by simp [fault?, hservice, Service.form?]
      have hbelow : visitedBelow node.kind nodes = [] := by simp [visitedBelow, hservice]
      simp only [leafOutcome, hservice]
      rw [hbelow]
      apply Outcome.Visits.map
      apply Outcome.Visits.cons hfault (boundValue?_of_service hservice (by decide))
      apply Outcome.Visits.pure
    | _ =>
      simp only [leafOutcome, hservice]
      apply hmismatch _ rfl (by decide)

theorem visits_all {nodes : List Node}
    (h : ∀ node ∈ nodes, ∀ p, (node.outcome d p).Visits node.visited) (p : Precedence) :
    (outcomeAll d nodes p).Visits (visitedAll nodes) := by
  induction nodes with
  | nil => apply Outcome.Visits.pure
  | cons node nodes ih =>
    rw [List.forall_mem_cons] at h
    unfold outcomeAll visitedAll
    apply (h.1 p).bind
    intro text
    apply (ih h.2).map

theorem visits_option {node? : Option Node}
    (h : ∀ node ∈ node?, ∀ p, (node.outcome d p).Visits node.visited) :
    (outcomeOption d node?).Visits (visitedOption node?) := by
  cases node? with
  | none => apply Outcome.Visits.pure
  | some node =>
    unfold outcomeOption visitedOption
    apply (h node rfl .clause).map

theorem visits_query {q : Query Node}
    (h : ∀ node ∈ q.parts, ∀ p, (node.outcome d p).Visits node.visited) :
    (outcomeQuery d q).Visits (visitedQuery q) := by
  obtain ⟨distinct, columns, sources, filter, groups, groupFilter, order, limit, offset⟩ := q
  rw [Query.forall_mem_parts] at h
  obtain ⟨hcolumns, hsources, hfilter, hgroups, hgroupFilter, horder⟩ := h
  unfold outcomeQuery visitedQuery
  apply (visits_all hcolumns .clause).bind
  intro columns
  apply (visits_all hsources .clause).bind
  intro sources
  apply (visits_option hfilter).bind
  intro filter
  apply (visits_all hgroups .clause).bind
  intro groups
  apply (visits_option hgroupFilter).bind
  intro groupFilter
  apply (visits_all horder .clause).map

theorem exists_service_of_spelling? {kind : Kind} {symbol : String} {right : Node}
    {spelling : Precedence × String} (h : spelling? kind symbol right = some spelling) :
    ∃ service, kind.service? = some service ∧ service.form? = some .binary := by
  have hne : spelling? kind symbol right ≠ none := by simp [h]
  rw [Ne, spelling?_eq_none_iff] at hne
  push Not at hne
  exact hne

theorem visits_outcome (node : Node) (p : Precedence) :
    (node.outcome d p).Visits node.visited := by
  induction node generalizing p with
  | literal x =>
    have hleaf := visits_of_isLeaf (d := d) (isLeaf_literal x) p []
    rw [visitedBelow_nil] at hleaf
    exact hleaf
  | unary kind symbol operand ih =>
    unfold visited
    by_cases hservice : kind.service? = some .unary
    . unfold outcome
      rw [if_pos hservice]
      apply visits_parts (.unary kind symbol operand) hservice rfl (by decide) rfl
      apply (ih kind.precedence).map
    . apply visits_of_isLeaf (isLeaf_unary hservice)
  | binary kind symbol left right ihleft ihright =>
    unfold visited
    cases hspelling : spelling? kind symbol right with
    | none => apply visits_of_isLeaf (isLeaf_binary hspelling)
    | some spelling =>
      obtain ⟨own, written⟩ := spelling
      obtain ⟨service, hservice, hform⟩ := exists_service_of_spelling? hspelling
      have hparts := (ihleft (Handler.operandDemands own).1).joined
        (ihright (Handler.operandDemands own).2) written
      unfold outcome
      rw [hspelling]
      exact visits_parts (.binary kind symbol left right) hservice hform (by decide) rfl hparts
        own p
  | chain kind keyword first rest ih =>
    by_cases hservice : kind.service? = some .chain
    . rw [outcome_chain hservice]
      unfold visited
      apply visits_parts (.chain kind keyword first rest) hservice rfl (by decide) rfl
      apply (visits_all ih kind.precedence).map
    . unfold visited
      apply visits_of_isLeaf (isLeaf_chain hservice)
  | call kind name args ih =>
    unfold visited
    by_cases hservice : kind.service? = some .call
    . unfold outcome
      rw [if_pos hservice]
      apply visits_parts (.call kind name args) hservice rfl (by decide) rfl
      apply (visits_all ih .clause).map
    . apply visits_of_isLeaf (isLeaf_call hservice)
  | table name =>
    apply Outcome.Visits.map
    apply Outcome.Visits.cons rfl rfl
    apply Outcome.Visits.pure
  | column table? name =>
    apply Outcome.Visits.map
    apply Outcome.Visits.cons rfl rfl
    apply Outcome.Visits.pure
  | select q ih =>
    unfold outcome visited
    apply Outcome.Visits.map
    apply Outcome.Visits.cons rfl rfl
    apply (visits_query ih).map
  | setOperation op left right ihleft ihright =>
    unfold outcome visited
    apply Outcome.Visits.map
    apply Outcome.Visits.cons
    . cases op <;> rfl
    . cases op <;> rfl
    . apply (ihleft _).joined (ihright _)
  | foreign kind precedence value? children ih =>
    unfold visited
    apply visits_of_isLeaf (isLeaf_foreign precedence value?)

end Node

namespace Compiler

/--
Compiling an expression in a state with parameters ends. It succeeds if and only if none of the
visited nodes is at fault. Otherwise the error is the fault of the first one that is, and only the
values of the nodes before it are bound.
-/
theorem compiles_unless_faulty (d : Dialect) (node : Node) (p : Precedence) (s : State)
    (us : List Value) (hs : s.parameters = .ok us) :
    ∃ result s', (standard.withDialect d).Compiles node p s (result, s') ∧
      ((∃ text, result = .ok text) ↔ ∀ part ∈ node.visited, part.fault? = none) ∧
      (∀ text, result = .ok text →
        s.ExtendsParameters (node.visited.filterMap Node.boundValue?) s') ∧
      (∀ e, result = .error e → ∃ before faulty after,
        node.visited = before ++ faulty :: after ∧ (∀ part ∈ before, part.fault? = none) ∧
        faulty.fault? = some e ∧
        s.ExtendsParameters (before.filterMap Node.boundValue?) s') := by
  have hcompiles := compiles_standard d node p s
  rw [Outcome.resultIn_of_ok hs] at hcompiles
  cases Node.visits_outcome (d := d) node p with
  | all text hfine ho =>
    rw [ho] at hcompiles
    refine ⟨_, _, hcompiles, by simpa using hfine, ?_, ?_⟩
    . intro _ _
      apply State.extendsParameters_addValues hs
    . intro e h
      cases h
  | upTo e before faulty after hnodes hbefore hfaulty ho =>
    rw [ho] at hcompiles
    refine ⟨_, _, hcompiles, ?_, ?_, ?_⟩
    . constructor
      . intro h
        obtain ⟨text, h⟩ := h
        cases h
      . intro hfine
        rw [hfine faulty (by simp [hnodes])] at hfaulty
        cases hfaulty
    . intro text h
      cases h
    . intro e' h
      cases h
      exact ⟨before, faulty, after, hnodes, hbefore, hfaulty,
        State.extendsParameters_addValues hs _⟩

theorem compiles_unless_faulty_shape :
    let c := standard.withDialect .generic
    let shape := Node.foreign (.special "shape" Kind.Standard.expression none) .tightest none []
    let node := Node.unaryOp .not (.binaryOp .equal (.scalar (.int64 7)) shape)
    State.new.parameters = .ok [] ∧
      ∃ result s', c.Compiles node .clause .new (result, s') ∧
        ((∃ text, result = .ok text) ↔ ∀ part ∈ node.visited, part.fault? = none) ∧
        (∀ text, result = .ok text →
          State.new.ExtendsParameters (node.visited.filterMap Node.boundValue?) s') ∧
        (∀ e, result = .error e → ∃ before faulty after,
          node.visited = before ++ faulty :: after ∧ (∀ part ∈ before, part.fault? = none) ∧
          faulty.fault? = some e ∧
          State.new.ExtendsParameters (before.filterMap Node.boundValue?) s') :=
  ⟨rfl, compiles_unless_faulty .generic _ .clause .new [] rfl⟩

end Compiler

end SqlExpr
