import SqlExpr.Proofs.AnyState
import SqlExpr.Proofs.Parts

/-!
This module contains what a query is by the steps that build it, in whatever order they come
(`Query.ofSteps_eq_iff`), and what the standard compiler makes of it: the clauses that are given, in
their fixed order, each from the texts of its expressions as they are compiled alone
(`Compiler.query_of_clauses`).
-/

namespace SqlExpr

namespace Query

variable {α : Type}

/--
The clauses that are lists.
-/
inductive Listing where
  | columns
  | sources
  | groups
  | order

/--
The clauses that are a single expression.
-/
inductive Condition where
  | filter
  | groupFilter

/--
The clauses that are a number.
-/
inductive Count where
  | limit
  | offset

def listing (q : Query α) : Listing → List α
  | .columns => q.columns
  | .sources => q.sources
  | .groups => q.groups
  | .order => q.order

def condition? (q : Query α) : Condition → Option α
  | .filter => q.filter
  | .groupFilter => q.groupFilter

def count? (q : Query α) : Count → Option UInt64
  | .limit => q.limit
  | .offset => q.offset

theorem eq_of_clauses {q q' : Query α} (hdistinct : q.distinct = q'.distinct)
    (hlisting : ∀ clause, q.listing clause = q'.listing clause)
    (hcondition : ∀ clause, q.condition? clause = q'.condition? clause)
    (hcount : ∀ clause, q.count? clause = q'.count? clause) : q = q' := by
  have hcolumns : q.columns = q'.columns := hlisting .columns
  have hsources : q.sources = q'.sources := hlisting .sources
  have hfilter : q.filter = q'.filter := hcondition .filter
  have hgroups : q.groups = q'.groups := hlisting .groups
  have hgroupFilter : q.groupFilter = q'.groupFilter := hcondition .groupFilter
  have horder : q.order = q'.order := hlisting .order
  have hlimit : q.limit = q'.limit := hcount .limit
  have hoffset : q.offset = q'.offset := hcount .offset
  cases q
  cases q'
  simp_all

end Query

namespace QueryStep

open Query (Listing Condition Count)

variable {α : Type}

def isDistinct : QueryStep α → Bool
  | .distinct => true
  | _ => false

/--
The expressions that a step adds to a list.
-/
def added : Listing → QueryStep α → List α
  | .columns, .column item => [item]
  | .columns, .columns items => items
  | .sources, .source item => [item]
  | .groups, .group item => [item]
  | .order, .order key => [key]
  | _, _ => []

/--
The expression that a step gives as a condition.
-/
def condition? : Condition → QueryStep α → Option α
  | .filter, .filter condition => some condition
  | .groupFilter, .groupFilter condition => some condition
  | _, _ => none

def count? : Count → QueryStep α → Option UInt64
  | .limit, .limit count => some count
  | .offset, .offset count => some count
  | _, _ => none

variable {q : Query α} {step : QueryStep α} {steps : List (QueryStep α)}

theorem distinct_apply : (step.apply q).distinct = (q.distinct || step.isDistinct) := by
  cases step with
  | distinct => exact (Bool.or_true _).symm
  | _ => exact (Bool.or_false _).symm

theorem listing_apply (clause : Listing) :
    (step.apply q).listing clause = q.listing clause ++ step.added clause := by
  cases step <;> cases clause <;> first | rfl | exact (List.append_nil _).symm

theorem condition?_apply (clause : Condition) :
    (step.apply q).condition? clause = (step.condition? clause).or (q.condition? clause) := by
  cases step <;> cases clause <;> rfl

theorem count?_apply (clause : Count) :
    (step.apply q).count? clause = (step.count? clause).or (q.count? clause) := by
  cases step <;> cases clause <;> rfl

/-! What a sequence of steps adds to a list, and which condition and number it gives last. -/

def addedBy (steps : List (QueryStep α)) (clause : Listing) : List α :=
  steps.flatMap (added clause)

def lastCondition? (steps : List (QueryStep α)) (clause : Condition) : Option α :=
  (steps.filterMap (condition? clause)).getLast?

def lastCount? (steps : List (QueryStep α)) (clause : Count) : Option UInt64 :=
  (steps.filterMap (count? clause)).getLast?

theorem getLast?_filterMap_cons {β γ : Type} (f : β → Option γ) (b : β) (bs : List β) :
    ((b :: bs).filterMap f).getLast? = ((bs.filterMap f).getLast?).or (f b) := by
  cases h : f b with
  | none => rw [List.filterMap_cons_none h, Option.or_none]
  | some c => rw [List.filterMap_cons_some h, List.getLast?_cons, Option.or_some]

theorem distinct_foldl : (steps.foldl apply q).distinct = (q.distinct || steps.any isDistinct) := by
  induction steps generalizing q with
  | nil => exact (Bool.or_false _).symm
  | cons step steps ih => rw [List.foldl_cons, ih, distinct_apply, List.any_cons, Bool.or_assoc]

theorem listing_foldl (clause : Listing) :
    (steps.foldl apply q).listing clause = q.listing clause ++ addedBy steps clause := by
  induction steps generalizing q with
  | nil => exact (List.append_nil _).symm
  | cons step steps ih =>
    rw [List.foldl_cons, ih, listing_apply, addedBy, addedBy, List.flatMap_cons, List.append_assoc]

/--
What each step replaces is in the end what was given last.
-/
theorem last_foldl {β : Type} (clause : Query α → Option β) (given : QueryStep α → Option β)
    (h : ∀ q step, clause (apply q step) = (given step).or (clause q)) :
    clause (steps.foldl apply q) = ((steps.filterMap given).getLast?).or (clause q) := by
  induction steps generalizing q with
  | nil => rfl
  | cons step steps ih => rw [List.foldl_cons, ih, h, getLast?_filterMap_cons, Option.or_assoc]

/--
Whether two sequences of steps agree on every clause: they add the same to every list, give the same
conditions and numbers last, and both ask for distinct rows or neither does.
-/
structure SameClauses (steps steps' : List (QueryStep α)) : Prop where
  distinct : steps.any isDistinct = steps'.any isDistinct
  added : addedBy steps = addedBy steps'
  condition : lastCondition? steps = lastCondition? steps'
  count : lastCount? steps = lastCount? steps'

/--
A condition that a later step gives again leaves no trace.
-/
theorem sameClauses_of_given_again {clause : Condition} {earlier later : List (QueryStep α)}
    (hstep : (step.condition? clause).isSome)
    (hlater : ∃ other ∈ later, (other.condition? clause).isSome) :
    SameClauses (earlier ++ step :: later) (earlier ++ later) := by
  have hother : step.isDistinct = false ∧ (∀ list, step.added list = []) ∧
      (∀ count, step.count? count = none) ∧
      ∀ clause', clause' ≠ clause → step.condition? clause' = none := by
    cases clause <;> cases step <;> try cases hstep
    all_goals
      refine ⟨rfl, fun list => by cases list <;> rfl, fun count => by cases count <;> rfl, ?_⟩
      intro clause' hne
      cases clause' <;> first | rfl | contradiction
  obtain ⟨hdistinct, hadded, hcount, hcondition⟩ := hother
  constructor
  . rw [List.any_append, List.any_append, List.any_cons, hdistinct, Bool.false_or]
  . funext list
    rw [addedBy, addedBy, List.flatMap_append, List.flatMap_append, List.flatMap_cons, hadded,
      List.nil_append]
  . funext clause'
    rw [lastCondition?, lastCondition?, List.filterMap_append, List.filterMap_append,
      List.getLast?_append, List.getLast?_append, getLast?_filterMap_cons]
    by_cases hclause : clause' = clause
    . obtain ⟨other, hmem, hother⟩ := hlater
      obtain ⟨condition, hother⟩ := Option.isSome_iff_exists.1 hother
      have hne : later.filterMap (condition? clause) ≠ [] :=
        List.ne_nil_of_mem (List.mem_filterMap.2 ⟨other, hmem, hother⟩)
      rw [hclause, List.getLast?_eq_some_getLast hne, Option.some_or, Option.some_or]
    . rw [hcondition clause' hclause, Option.or_none]
  . funext count
    rw [lastCount?, lastCount?, List.filterMap_append, List.filterMap_append,
      List.filterMap_cons_none (hcount count)]

end QueryStep

namespace Query

open QueryStep

variable {α : Type} {steps steps' : List (QueryStep α)}

theorem distinct_ofSteps : (ofSteps steps).distinct = steps.any isDistinct := by
  rw [ofSteps, distinct_foldl]
  rfl

theorem listing_ofSteps (clause : Listing) :
    (ofSteps steps).listing clause = addedBy steps clause := by
  rw [ofSteps, listing_foldl]
  cases clause <;> rfl

theorem condition?_ofSteps (clause : Condition) :
    (ofSteps steps).condition? clause = lastCondition? steps clause := by
  have hlast : (ofSteps steps).condition? clause
      = (lastCondition? steps clause).or ((empty : Query α).condition? clause) :=
    last_foldl (·.condition? clause) _ fun q step => condition?_apply clause
  rw [hlast]
  cases clause <;> exact Option.or_none

theorem count?_ofSteps (clause : Count) :
    (ofSteps steps).count? clause = lastCount? steps clause := by
  have hlast : (ofSteps steps).count? clause
      = (lastCount? steps clause).or ((empty : Query α).count? clause) :=
    last_foldl (·.count? clause) _ fun q step => count?_apply clause
  rw [hlast]
  cases clause <;> exact Option.or_none

theorem ofSteps_eq_iff : ofSteps steps = ofSteps steps' ↔ SameClauses steps steps' := by
  constructor
  . intro h
    refine ⟨?_, funext fun clause => ?_, funext fun clause => ?_, funext fun clause => ?_⟩
    . rw [← distinct_ofSteps, h, distinct_ofSteps]
    . rw [← listing_ofSteps, h, listing_ofSteps]
    . rw [← condition?_ofSteps, h, condition?_ofSteps]
    . rw [← count?_ofSteps, h, count?_ofSteps]
  . intro h
    apply eq_of_clauses
    . rw [distinct_ofSteps, distinct_ofSteps, h.distinct]
    . intro clause
      rw [listing_ofSteps, listing_ofSteps, h.added]
    . intro clause
      rw [condition?_ofSteps, condition?_ofSteps, h.condition]
    . intro clause
      rw [count?_ofSteps, count?_ofSteps, h.count]

/-! The text of a query as the clauses that it has, with a space between them. -/

/--
The text of a clause, which is left out if there is nothing in it.
-/
def clauseText? (keyword : String) (items : List String) : Option String :=
  if items.isEmpty then none else some (keyword ++ " " ++ ", ".intercalate items)

/--
Some words with a space between them, if there are any.
-/
def spaced? : List String → Option String
  | [] => none
  | words => some (" ".intercalate words)

theorem spaced?_clauseTexts (keyword : String) (items : List String) :
    spaced? (clauseTexts keyword items) = clauseText? keyword items := by
  unfold clauseTexts clauseText?
  split
  . rfl
  . simp [spaced?, String.intercalate_cons_cons]

theorem spaced?_countClause (keyword : String) (count : Option UInt64) :
    spaced? (Handler.countClause keyword count)
      =
    clauseText? keyword (count.map fun n => Nat.repr n.toNat).toList := by
  cases count with
  | none => rfl
  | some n => apply spaced?_clauseTexts keyword [Nat.repr n.toNat]

theorem filterMap_spaced?_eq_nil_iff {groups : List (List String)} :
    groups.filterMap spaced? = [] ↔ groups.flatten = [] := by
  rw [List.filterMap_eq_nil_iff, List.flatten_eq_nil_iff]
  apply forall₂_congr
  intro words _
  cases words <;> simp [spaced?]

theorem intercalate_flatten (groups : List (List String)) :
    " ".intercalate groups.flatten = " ".intercalate (groups.filterMap spaced?) := by
  induction groups with
  | nil => rfl
  | cons words groups ih =>
    by_cases hwords : words = []
    . rw [hwords, List.flatten_cons, List.nil_append, ih, List.filterMap_cons_none rfl]
    . have hspaced : spaced? words = some (" ".intercalate words) := by
        cases words with
        | nil => contradiction
        | cons word words => rfl
      rw [List.flatten_cons, List.filterMap_cons_some hspaced]
      by_cases hgroups : groups.flatten = []
      . rw [hgroups, filterMap_spaced?_eq_nil_iff.2 hgroups, List.append_nil,
          String.intercalate_singleton]
      . rw [String.intercalate_append_of_ne_nil hwords hgroups, ih,
          String.intercalate_cons_of_ne_nil (mt filterMap_spaced?_eq_nil_iff.1 hgroups)]

theorem text_eq (q : Query String) :
    q.text
      =
    " ".intercalate ([some "SELECT",
      if q.distinct then some "DISTINCT" else none,
      some (if q.columns.isEmpty then "*" else ", ".intercalate q.columns),
      clauseText? "FROM" q.sources,
      clauseText? "WHERE" q.filter.toList,
      clauseText? "GROUP BY" q.groups,
      clauseText? "HAVING" q.groupFilter.toList,
      clauseText? "ORDER BY" q.order,
      clauseText? "LIMIT" (q.limit.map fun n => Nat.repr n.toNat).toList,
      clauseText? "OFFSET" (q.offset.map fun n => Nat.repr n.toNat).toList].filterMap id) := by
  let groups := [["SELECT"], if q.distinct then ["DISTINCT"] else [],
    [if q.columns.isEmpty then "*" else ", ".intercalate q.columns], clauseTexts "FROM" q.sources,
    clauseTexts "WHERE" q.filter.toList, clauseTexts "GROUP BY" q.groups,
    clauseTexts "HAVING" q.groupFilter.toList, clauseTexts "ORDER BY" q.order,
    Handler.countClause "LIMIT" q.limit, Handler.countClause "OFFSET" q.offset]
  have hflatten : q.text = " ".intercalate groups.flatten := by
    simp only [text, groups, List.flatten_cons, List.flatten_nil, List.append_nil, List.append_assoc]
  have hdistinct : spaced? (if q.distinct then ["DISTINCT"] else [])
      = if q.distinct then some "DISTINCT" else none := by
    split <;> rfl
  have hspaced : groups.filterMap spaced? = (groups.map spaced?).filterMap id := by
    rw [List.filterMap_map]
    rfl
  rw [hflatten, intercalate_flatten, hspaced]
  simp only [groups, List.map_cons, List.map_nil, hdistinct, spaced?_clauseTexts,
    spaced?_countClause]
  rfl

end Query

namespace QueryStep

variable {α : Type}

/--
The expressions that are left of a sequence of steps, in the order in which they are written.
-/
def kept (steps : List (QueryStep α)) : List α :=
  addedBy steps .columns ++ addedBy steps .sources ++ (lastCondition? steps .filter).toList
    ++ addedBy steps .groups ++ (lastCondition? steps .groupFilter).toList ++ addedBy steps .order

/--
The clauses that a sequence of steps gives, from the texts of the expressions, each in its place.
-/
def writtenClauses (text : α → String) (steps : List (QueryStep α)) : List (Option String) :=
  let list clause := (addedBy steps clause).map text
  let condition clause := ((lastCondition? steps clause).map text).toList
  let count clause := ((lastCount? steps clause).map fun n => Nat.repr n.toNat).toList
  [some "SELECT",
    if steps.any isDistinct then some "DISTINCT" else none,
    some (if (list .columns).isEmpty then "*" else ", ".intercalate (list .columns)),
    Query.clauseText? "FROM" (list .sources),
    Query.clauseText? "WHERE" (condition .filter),
    Query.clauseText? "GROUP BY" (list .groups),
    Query.clauseText? "HAVING" (condition .groupFilter),
    Query.clauseText? "ORDER BY" (list .order),
    Query.clauseText? "LIMIT" (count .limit),
    Query.clauseText? "OFFSET" (count .offset)]

def queryText (text : α → String) (steps : List (QueryStep α)) : String :=
  " ".intercalate ((writtenClauses text steps).filterMap id)

theorem parts_ofSteps (steps : List (QueryStep α)) : (Query.ofSteps steps).parts = kept steps := by
  simp only [kept, ← Query.listing_ofSteps, ← Query.condition?_ofSteps]
  rfl

theorem text_ofSteps (text : α → String) (steps : List (QueryStep α)) :
    ((Query.ofSteps steps).map text).text = queryText text steps := by
  simp only [queryText, writtenClauses, ← Query.listing_ofSteps, ← Query.condition?_ofSteps,
    ← Query.count?_ofSteps, ← Query.distinct_ofSteps]
  apply Query.text_eq

end QueryStep

namespace Node

variable {d : Dialect} {text : Node → String} {values : Node → List Value}

theorem outcomeAll_eq_ok {nodes : List Node} {p : Precedence}
    (h : ∀ node ∈ nodes, node.outcome d p = ⟨.ok (text node), values node⟩) :
    outcomeAll d nodes p = ⟨.ok (nodes.map text), nodes.flatMap values⟩ := by
  induction nodes with
  | nil => rfl
  | cons node nodes ih =>
    rw [List.forall_mem_cons] at h
    unfold outcomeAll
    rw [h.1, ih h.2]
    simp

theorem outcomeOption_eq_ok {node? : Option Node}
    (h : ∀ node ∈ node?, node.outcome d .clause = ⟨.ok (text node), values node⟩) :
    outcomeOption d node? = ⟨.ok (node?.map text), node?.toList.flatMap values⟩ := by
  cases node? with
  | none => rfl
  | some node =>
    unfold outcomeOption
    rw [h node rfl]
    simp

theorem outcomeQuery_eq_ok {q : Query Node}
    (h : ∀ node ∈ q.parts, node.outcome d .clause = ⟨.ok (text node), values node⟩) :
    outcomeQuery d q = ⟨.ok (q.map text), q.parts.flatMap values⟩ := by
  obtain ⟨hcolumns, hsources, hfilter, hgroups, hgroupFilter, horder⟩ := Query.forall_mem_parts.1 h
  obtain ⟨distinct, columns, sources, filter, groups, groupFilter, order, limit, offset⟩ := q
  unfold outcomeQuery
  rw [outcomeAll_eq_ok hcolumns, outcomeAll_eq_ok hsources, outcomeOption_eq_ok hfilter,
    outcomeAll_eq_ok hgroups, outcomeOption_eq_ok hgroupFilter, outcomeAll_eq_ok horder]
  simp only [Outcome.ok_bind, Outcome.pure_eq, Query.map, Query.parts, List.flatMap_append,
    List.append_nil, List.append_assoc]

theorem mem_visited_self (node : Node) : node ∈ node.visited := by
  cases node <;> simp [visited]

theorem exists_outcome_of_mem_parts {node : Node} {q : Query Node} {p : Precedence}
    {written : String} {vs : List Value} (h : (select q).outcome d p = ⟨.ok written, vs⟩)
    (hmem : node ∈ q.parts) : ∃ text us, node.outcome d .clause = ⟨.ok text, us⟩ := by
  have hvisited : node ∈ visitedQuery q := by
    rw [visitedQuery_eq_flatMap, List.mem_flatMap]
    exact ⟨node, hmem, mem_visited_self node⟩
  obtain ⟨own, inner, us, hout, -⟩ :=
    standsIn_of_mem_visited h (List.mem_cons_of_mem _ hvisited)
  obtain ⟨text, hout⟩ := outcome_of_demand hout .clause
  exact ⟨text, us, hout⟩

end Node

namespace Compiler

/--
Whether an expression compiles alone as a member of a clause, to a text and the values of its
placeholders.
-/
def CompilesMember (c : Compiler) (node : Node) (text : String) (vs : List Value) : Prop :=
  ∃ alone, c.Compiles node .clause .new (.ok text, alone) ∧ alone.parameters = .ok vs

variable {d : Dialect} {node : Node} {text : String} {vs : List Value}
  {steps steps' : List (QueryStep Node)}

theorem compilesMember_standard_iff :
    (standard.withDialect d).CompilesMember node text vs
      ↔
    node.outcome d .clause = ⟨.ok text, vs⟩ := by
  have hparameters := State.parameters_addValues parameters_new (node.outcome d .clause).values
  constructor
  . intro h
    obtain ⟨alone, hcompiles, hvalues⟩ := h
    rw [compiles_standard_iff parameters_new] at hcompiles
    injection hcompiles with htext halone
    rw [halone, hparameters] at hvalues
    injection hvalues with hvalues
    rw [← hvalues, htext]
    rfl
  . intro h
    rw [h] at hparameters
    refine ⟨_, ?_, hparameters⟩
    rw [compiles_standard_iff parameters_new, h]

theorem outcome_select_ofSteps {text : Node → String} {values : Node → List Value}
    (h : ∀ item ∈ QueryStep.kept steps, item.outcome d .clause = ⟨.ok (text item), values item⟩) :
    (Node.select (.ofSteps steps)).outcome d .loosest
      =
    ⟨.ok (QueryStep.queryText text steps), (QueryStep.kept steps).flatMap values⟩ := by
  rw [← QueryStep.parts_ofSteps] at h
  have hquery := Node.outcomeQuery_eq_ok h
  unfold Node.outcome
  rw [hquery, QueryStep.parts_ofSteps, Outcome.ok_bind, Outcome.pure_eq, List.append_nil,
    QueryStep.text_ofSteps, Outcome.bracketed_eq_ok_iff]
  exact ⟨_, rfl, rfl⟩

/--
A query compiles exactly if the expressions that are left of its steps do, each alone. Then its text
is made of the clauses that the steps give, in their fixed order, and the values of its placeholders
come in the same order. So what steps to the same clauses give is the same for every compiler, also
if one of them has a condition that a later step gives again.
-/
theorem query_of_clauses :
    (∀ d steps written vs,
      (standard.withDialect d).CompilesTo (.select (.ofSteps steps)) written vs ↔
        ∃ text values, (∀ item ∈ QueryStep.kept steps,
            (standard.withDialect d).CompilesMember item (text item) (values item)) ∧
          written = QueryStep.queryText text steps ∧
          vs = (QueryStep.kept steps).flatMap values) ∧
    (∀ steps steps', QueryStep.SameClauses steps steps' → ∀ (c : Compiler) p s r,
      c.Compiles (.select (.ofSteps steps)) p s r ↔ c.Compiles (.select (.ofSteps steps')) p s r) ∧
    (∀ clause earlier step later, (QueryStep.condition? clause step).isSome →
      (∃ other ∈ later, (QueryStep.condition? clause other).isSome) → ∀ (c : Compiler) p s r,
      c.Compiles (.select (.ofSteps (earlier ++ step :: later))) p s r ↔
        c.Compiles (.select (.ofSteps (earlier ++ later))) p s r) := by
  refine ⟨?_, ?_, ?_⟩
  . intro d steps written vs
    simp only [compilesTo_standard_iff, compilesMember_standard_iff]
    constructor
    . intro h
      let text (item : Node) := ((item.outcome d .clause).result.toOption).getD ""
      let values (item : Node) := (item.outcome d .clause).values
      have hmembers : ∀ item ∈ QueryStep.kept steps,
          item.outcome d .clause = ⟨.ok (text item), values item⟩ := by
        intro item hmem
        rw [← QueryStep.parts_ofSteps] at hmem
        obtain ⟨written, us, hout⟩ := Node.exists_outcome_of_mem_parts h hmem
        simp only [text, values, hout]
        rfl
      rw [outcome_select_ofSteps hmembers] at h
      cases h
      exact ⟨text, values, hmembers, rfl, rfl⟩
    . rintro ⟨text, values, hmembers, rfl, rfl⟩
      apply outcome_select_ofSteps hmembers
  . intro steps steps' h c p s r
    rw [Query.ofSteps_eq_iff.2 h]
  . intro clause earlier step later hstep hlater c p s r
    rw [Query.ofSteps_eq_iff.2 (QueryStep.sameClauses_of_given_again hstep hlater)]

/--
The same clauses in two orders, and with another condition that does not last.
-/
theorem query_of_clauses_flag :
    let column (name : String) := Node.column none name
    let flag := Node.scalar (.bool true)
    let early : QueryStep Node := .filter (column "a")
    let steps := [.limit 3, .column (column "x"), .filter flag, .distinct, .column (column "y")]
    let steps' := [.distinct, .filter flag, .columns [column "x", column "y"], .limit 3]
    (∃ text values, (∀ item ∈ QueryStep.kept steps,
        (standard.withDialect .generic).CompilesMember item (text item) (values item)) ∧
      "SELECT DISTINCT x, y WHERE ? LIMIT 3" = QueryStep.queryText text steps ∧
      [.bool true] = (QueryStep.kept steps).flatMap values) ∧
    (∀ (c : Compiler) p s r,
      c.Compiles (.select (.ofSteps steps)) p s r ↔ c.Compiles (.select (.ofSteps steps')) p s r) ∧
    (∀ (c : Compiler) p s r, c.Compiles (.select (.ofSteps (early :: steps))) p s r ↔
      c.Compiles (.select (.ofSteps steps)) p s r) := by
  intro column flag early steps steps'
  refine ⟨?_, ?_, ?_⟩
  . apply (query_of_clauses.1 .generic steps _ _).1
    rw [compilesTo_standard_iff]
    rfl
  . apply query_of_clauses.2.1
    refine ⟨rfl, funext fun clause => ?_, funext fun clause => ?_, funext fun clause => ?_⟩
    all_goals cases clause <;> rfl
  . apply query_of_clauses.2.2 .filter [] early steps rfl
    exact ⟨.filter flag, by simp [steps], rfl⟩

end Compiler

end SqlExpr
