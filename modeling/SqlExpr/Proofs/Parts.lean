import SqlExpr.Proofs.Faults
import SqlExpr.Proofs.Outcome.Ensures

/-!
This module contains the proof that the text of an expression contains the text of every node in it,
as that node is compiled under some demand (`Node.standsIn_of_mem_visited`).
-/

namespace SqlExpr

theorem infix_bracket (own p : Precedence) (text : String) :
    text.toList <:+: (Compiler.bracket own p text).toList := by
  unfold Compiler.bracket
  split
  . rw [String.toList_append, String.toList_append]
    apply List.infix_append
  . apply List.infix_refl

theorem infix_infixText (left symbol right : String) :
    left.toList <:+: (Handler.infixText left symbol right).toList ∧
      right.toList <:+: (Handler.infixText left symbol right).toList := by
  simp only [Handler.infixText, String.toList_append]
  constructor
  . simp only [List.append_assoc]
    apply List.IsPrefix.isInfix
    apply List.prefix_append
  . apply List.IsSuffix.isInfix
    apply List.suffix_append

theorem infix_intercalate {separator text : String} {texts : List String} (h : text ∈ texts) :
    text.toList <:+: (separator.intercalate texts).toList := by
  induction texts with
  | nil => cases h
  | cons first rest ih =>
    by_cases hrest : rest = []
    . rw [hrest, List.mem_singleton] at h
      have hall : separator.intercalate (first :: rest) = text := by
        rw [hrest, h, String.intercalate_singleton]
      exact hall ▸ List.infix_refl text.toList
    . rw [String.intercalate_cons_of_ne_nil hrest, String.toList_append, String.toList_append]
      rcases List.mem_cons.1 h with h | h
      . rw [h, List.append_assoc]
        apply List.IsPrefix.isInfix
        apply List.prefix_append
      . apply List.infix_append_of_infix_right (ih h)

theorem infix_clauseTexts {text : String} {texts : List String} (h : text ∈ texts)
    (keyword : String) :
    ∃ clause ∈ Query.clauseTexts keyword texts, text.toList <:+: clause.toList := by
  refine ⟨", ".intercalate texts, ?_, infix_intercalate h⟩
  cases texts with
  | nil => cases h
  | cons first rest => simp [Query.clauseTexts]

theorem infix_queryText {q : Query String} {text : String} (h : text ∈ q.parts) :
    text.toList <:+: q.text.toList := by
  have hclause (clause : String)
      (hmem : clause ∈ [if q.columns.isEmpty then "*" else ", ".intercalate q.columns] ∨
        clause ∈ Query.clauseTexts "FROM" q.sources ∨
        clause ∈ Query.clauseTexts "WHERE" q.filter.toList ∨
        clause ∈ Query.clauseTexts "GROUP BY" q.groups ∨
        clause ∈ Query.clauseTexts "HAVING" q.groupFilter.toList ∨
        clause ∈ Query.clauseTexts "ORDER BY" q.order)
      (htext : text.toList <:+: clause.toList) : text.toList <:+: q.text.toList := by
    apply htext.trans
    apply infix_intercalate
    simp only [List.mem_append]
    grind
  simp only [Query.parts, List.mem_append] at h
  rcases h with ((((h | h) | h) | h) | h) | h
  . apply hclause (", ".intercalate q.columns) _ (infix_intercalate h)
    left
    cases hcolumns : q.columns with
    | nil =>
      rw [hcolumns] at h
      cases h
    | cons first rest => simp
  . obtain ⟨clause, hmem, htext⟩ := infix_clauseTexts h "FROM"
    exact hclause clause (by simp [hmem]) htext
  . obtain ⟨clause, hmem, htext⟩ := infix_clauseTexts h "WHERE"
    exact hclause clause (by simp [hmem]) htext
  . obtain ⟨clause, hmem, htext⟩ := infix_clauseTexts h "GROUP BY"
    exact hclause clause (by simp [hmem]) htext
  . obtain ⟨clause, hmem, htext⟩ := infix_clauseTexts h "HAVING"
    exact hclause clause (by simp [hmem]) htext
  . obtain ⟨clause, hmem, htext⟩ := infix_clauseTexts h "ORDER BY"
    exact hclause clause (by simp [hmem]) htext

namespace Node

variable {d : Dialect} {node part : Node}

/--
Whether the text of a node, as it is compiled under some demand, stands in a text.
-/
def StandsIn (d : Dialect) (part : Node) (text : String) : Prop :=
  ∃ p inner vs, part.outcome d p = ⟨.ok inner, vs⟩ ∧ inner.toList <:+: text.toList

theorem StandsIn.mono {text text' : String} (h : part.StandsIn d text)
    (htext : text.toList <:+: text'.toList) : part.StandsIn d text' := by
  obtain ⟨p, inner, vs, hout, hinner⟩ := h
  exact ⟨p, inner, vs, hout, hinner.trans htext⟩

/--
Whether the text of an expression, under every demand, contains those of some nodes.
-/
def Shows (d : Dialect) (node : Node) (parts : List Node) : Prop :=
  ∀ p, Outcome.Ensures (fun text => ∀ part ∈ parts, part.StandsIn d text) (node.outcome d p)

theorem ensures_all {nodes : List Node} (h : ∀ node ∈ nodes, Shows d node node.visited)
    (p : Precedence) :
    Outcome.Ensures (fun texts => ∀ part ∈ visitedAll nodes, ∃ text ∈ texts, part.StandsIn d text)
      (outcomeAll d nodes p) := by
  induction nodes with
  | nil =>
    apply Outcome.Ensures.pure
    nofun
  | cons node nodes ih =>
    rw [List.forall_mem_cons] at h
    unfold outcomeAll visitedAll
    refine (h.1 p).bind ?_
    intro text htext
    refine (ih h.2).bind ?_
    intro texts htexts
    refine .pure ?_
    intro part hmem
    rcases List.mem_append.1 hmem with hmem | hmem
    . exact ⟨text, List.mem_cons_self, htext part hmem⟩
    . obtain ⟨other, hother, hpart⟩ := htexts part hmem
      exact ⟨other, List.mem_cons_of_mem text hother, hpart⟩

theorem ensures_option {node? : Option Node} (h : ∀ node ∈ node?, Shows d node node.visited) :
    Outcome.Ensures
      (fun text? => ∀ part ∈ visitedOption node?, ∃ text ∈ text?.toList, part.StandsIn d text)
      (outcomeOption d node?) := by
  cases node? with
  | none =>
    refine .pure ?_
    nofun
  | some node =>
    refine (h node rfl .clause).bind ?_
    intro text htext
    refine .pure ?_
    intro part hmem
    exact ⟨text, List.mem_singleton_self text, htext part hmem⟩

theorem ensures_query {q : Query Node} (h : ∀ node ∈ q.parts, Shows d node node.visited) :
    Outcome.Ensures
      (fun texts => ∀ part ∈ visitedQuery q, ∃ text ∈ texts.parts, part.StandsIn d text)
      (outcomeQuery d q) := by
  obtain ⟨hcolumns, hsources, hfilter, hgroups, hgroupFilter, horder⟩ := Query.forall_mem_parts.1 h
  obtain ⟨distinct, columns, sources, filter, groups, groupFilter, order, limit, offset⟩ := q
  unfold outcomeQuery visitedQuery
  refine (ensures_all hcolumns .clause).bind ?_
  intro columns hcolumns
  refine (ensures_all hsources .clause).bind ?_
  intro sources hsources
  refine (ensures_option hfilter).bind ?_
  intro filter hfilter
  refine (ensures_all hgroups .clause).bind ?_
  intro groups hgroups
  refine (ensures_option hgroupFilter).bind ?_
  intro groupFilter hgroupFilter
  refine (ensures_all horder .clause).bind ?_
  intro order horder
  refine .pure ?_
  intro part hmem
  simp only [List.mem_append] at hmem
  simp only [Query.parts, List.mem_append]
  grind

/--
The text of an expression stays in one piece when it is written with brackets, so an expression shows
what its parts show.
-/
theorem shows_cons {own : Precedence} {o : Outcome String} {parts : List Node}
    (hnode : ∀ p, node.outcome d p = .bracketed own p o)
    (h : Outcome.Ensures (fun text => ∀ part ∈ parts, part.StandsIn d text) o) :
    Shows d node (node :: parts) := by
  intro p text vs hout part hmem
  rcases List.mem_cons.1 hmem with rfl | hmem
  . exact ⟨p, text, vs, hout, List.infix_refl _⟩
  . rw [hnode, Outcome.bracketed_eq_ok_iff] at hout
    obtain ⟨inner, hinner, rfl⟩ := hout
    apply (h inner vs hinner part hmem).mono
    apply infix_bracket

theorem ensures_joined {written : String} {left right : Outcome String} {parts others : List Node}
    (hleft : Outcome.Ensures (fun text => ∀ part ∈ parts, part.StandsIn d text) left)
    (hright : Outcome.Ensures (fun text => ∀ part ∈ others, part.StandsIn d text) right) :
    Outcome.Ensures (fun text => ∀ part ∈ parts ++ others, part.StandsIn d text)
      (.joined written left right) := by
  refine hleft.joined hright ?_
  intro leftText rightText hleft hright
  obtain ⟨hleftText, hrightText⟩ := infix_infixText leftText written rightText
  intro part hmem
  rcases List.mem_append.1 hmem with hmem | hmem
  . apply (hleft part hmem).mono hleftText
  . apply (hright part hmem).mono hrightText

theorem shows_of_isLeaf (h : node.IsLeaf) (nodes : List Node) :
    Shows d node (node :: visitedBelow node.kind nodes) := by
  intro p text vs hout part hmem
  rcases List.mem_cons.1 hmem with rfl | hmem
  . exact ⟨p, text, vs, hout, List.infix_refl _⟩
  . rw [outcome_of_isLeaf h] at hout
    have hservice : node.kind.service? = some .value ∨ node.kind.service? = some .null := by
      unfold leafOutcome at hout
      split at hout
      . cases hout
      . right
        assumption
      . left
        assumption
      . cases hout
    unfold visitedBelow at hmem
    rw [if_pos hservice] at hmem
    cases hmem

theorem shows_visited (node : Node) : Shows d node node.visited := by
  induction node with
  | literal x =>
    have hleaf := shows_of_isLeaf (d := d) (isLeaf_literal x) []
    rw [visitedBelow_nil] at hleaf
    exact hleaf
  | unary kind symbol operand ih =>
    unfold visited
    by_cases hservice : kind.service? = some .unary
    . rw [visitedBelow_of_service hservice (by decide) (by decide)]
      apply shows_cons
      . intro p
        unfold outcome
        rw [if_pos hservice]
      . refine (ih _).bind ?_
        intro text htext
        refine .pure ?_
        intro part hmem
        apply (htext part hmem).mono
        rw [String.toList_append]
        apply List.IsSuffix.isInfix
        apply List.suffix_append
    . apply shows_of_isLeaf (isLeaf_unary hservice)
  | binary kind symbol left right ihleft ihright =>
    unfold visited
    cases hspelling : spelling? kind symbol right with
    | none => apply shows_of_isLeaf (isLeaf_binary hspelling)
    | some spelling =>
      obtain ⟨service, hservice, hform⟩ := exists_service_of_spelling? hspelling
      have hbelow : visitedBelow kind (left.visited ++ right.visited)
          = left.visited ++ right.visited := by
        cases service <;> cases hform <;>
          rw [visitedBelow_of_service hservice (by decide) (by decide)]
      rw [hbelow]
      apply shows_cons
      . intro p
        unfold outcome
        rw [hspelling]
      . apply ensures_joined (ihleft _) (ihright _)
  | chain kind keyword first rest ih =>
    unfold visited
    by_cases hservice : kind.service? = some .chain
    . rw [visitedBelow_of_service hservice (by decide) (by decide)]
      apply shows_cons
      . intro p
        apply outcome_chain hservice
      . refine (ensures_all ih _).bind ?_
        intro texts htexts
        refine .pure ?_
        intro part hmem
        obtain ⟨text, htext, hpart⟩ := htexts part hmem
        apply hpart.mono (infix_intercalate htext)
    . apply shows_of_isLeaf (isLeaf_chain hservice)
  | call kind name args ih =>
    unfold visited
    by_cases hservice : kind.service? = some .call
    . rw [visitedBelow_of_service hservice (by decide) (by decide)]
      apply shows_cons
      . intro p
        unfold outcome
        rw [if_pos hservice]
      . refine (ensures_all ih _).bind ?_
        intro texts htexts
        refine .pure ?_
        intro part hmem
        obtain ⟨text, htext, hpart⟩ := htexts part hmem
        apply (hpart.mono (infix_intercalate htext)).mono
        rw [String.toList_append, String.toList_append]
        apply List.infix_append
    . apply shows_of_isLeaf (isLeaf_call hservice)
  | table name =>
    intro p text vs hout part hmem
    cases List.mem_singleton.1 hmem
    exact ⟨p, text, vs, hout, List.infix_refl _⟩
  | column table? name =>
    intro p text vs hout part hmem
    cases List.mem_singleton.1 hmem
    exact ⟨p, text, vs, hout, List.infix_refl _⟩
  | select q ih =>
    unfold visited
    apply shows_cons (fun p => rfl)
    refine (ensures_query ih).bind ?_
    intro texts htexts
    refine .pure ?_
    intro part hmem
    obtain ⟨text, htext, hpart⟩ := htexts part hmem
    apply hpart.mono (infix_queryText htext)
  | setOperation op left right ihleft ihright =>
    unfold visited
    apply shows_cons (fun p => rfl)
    apply ensures_joined (ihleft _) (ihright _)
  | foreign kind precedence value? children ih =>
    unfold visited
    apply shows_of_isLeaf (isLeaf_foreign precedence value?)

/--
The text of a node in an expression, as it is compiled there, stands in the text of the expression.
-/
theorem standsIn_of_mem_visited {p : Precedence} {text : String} {vs : List Value}
    (h : node.outcome d p = ⟨.ok text, vs⟩) (hmem : part ∈ node.visited) : part.StandsIn d text :=
  shows_visited node p text vs h part hmem

end Node

end SqlExpr
