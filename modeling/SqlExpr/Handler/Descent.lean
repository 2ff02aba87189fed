import SqlExpr.Compiler.Descent
import SqlExpr.Handler.Query
import SqlExpr.Handler.Value

/-!
This module contains the proof that the built-in handlers descend: they compile only parts of the
node that they are given. The one for comparisons may instead replace its node by an identity test
of the same operands (`equality_eq`).
-/

namespace SqlExpr

namespace Handler

/--
Whether a handler compiles only parts of the node that it is given, and does not replace it.
-/
def CompilesParts (handler : Handler) : Prop :=
  ∀ node, (handler node).CompilesOnly (· ∈ node.parts)

/--
Whether a handler compiles only nodes of less height, and does not replace the one that it is given.
-/
def Descends (handler : Handler) : Prop :=
  ∀ node, (handler node).CompilesBelow node.height

theorem CompilesParts.descends {handler : Handler} (h : handler.CompilesParts) :
    handler.Descends :=
  fun node => (h node).compilesBelow fun _ => Node.height_lt_of_mem_parts

theorem compilesParts_value : CompilesParts value := by
  intro node
  unfold value
  split
  . trivial
  . exact Action.compilesOnly_toSql (.bind (.perform _) fun _ => .bind .dialect fun _ => .pure _)

theorem compilesParts_null : CompilesParts null :=
  fun _ => Action.compilesOnly_toSql (.bind .dialect fun _ => .pure _)

theorem compilesParts_unary : CompilesParts unary := by
  intro node
  unfold unary
  split
  . refine Action.compilesOnly_toSql (.bind (.compile ?_ _) fun _ => .pure _)
    exact List.mem_cons_self
  . trivial

theorem compilesParts_binary : CompilesParts binary := by
  intro node
  unfold binary
  split
  . refine Action.compilesOnly_toSql (.bind (.compile ?_ _) fun _ => ?_)
    . exact List.mem_cons_self
    . refine .bind (.compile ?_ _) fun _ => .pure _
      exact List.mem_cons_of_mem _ List.mem_cons_self
  . trivial

theorem compilesParts_chain : CompilesParts chain := by
  intro node
  unfold chain
  split
  . exact Action.compilesOnly_toSql (.bind (.compileEach (fun _ h => h) _) fun _ => .pure _)
  . trivial

section

variable {S : Node → Prop} {nodes : List Node}

theorem compilesOnly_listText (h : ∀ node ∈ nodes, S node) : (listText nodes).CompilesOnly S :=
  .bind (.compileEach h _) fun _ => .pure _

theorem compilesOnly_columnsText (h : ∀ node ∈ nodes, S node) :
    (columnsText nodes).CompilesOnly S := by
  unfold columnsText
  split
  . exact .pure _
  . exact compilesOnly_listText h

theorem compilesOnly_listClause {keyword : String} (h : ∀ node ∈ nodes, S node) :
    (listClause keyword nodes).CompilesOnly S := by
  unfold listClause
  split
  . exact .pure _
  . exact .bind (compilesOnly_listText h) fun _ => .pure _

theorem compilesOnly_optionClause {keyword : String} {node? : Option Node}
    (h : ∀ node ∈ node?, S node) : (optionClause keyword node?).CompilesOnly S := by
  unfold optionClause
  split
  . exact .pure _
  . exact .bind (.compile (h _ rfl) _) fun _ => .pure _

end

theorem compilesParts_call : CompilesParts call := by
  intro node
  unfold call
  split
  . exact Action.compilesOnly_toSql (.bind (compilesOnly_listText fun _ h => h) fun _ => .pure _)
  . trivial

theorem compilesParts_table : CompilesParts table := by
  intro node
  unfold table
  split <;> trivial

theorem compilesParts_column : CompilesParts column := by
  intro node
  unfold column
  split <;> trivial

theorem compilesParts_select : CompilesParts select := by
  intro node
  unfold select
  split
  . next q =>
    obtain ⟨hcolumns, hsources, hfilter, hgroups, hgroupFilter, horder⟩ :=
      Query.forall_mem_parts.1 fun part (h : part ∈ q.parts) => h
    refine Action.compilesOnly_toSql ?_
    refine .bind (compilesOnly_columnsText hcolumns) fun _ => ?_
    refine .bind (compilesOnly_listClause hsources) fun _ => ?_
    refine .bind (compilesOnly_optionClause hfilter) fun _ => ?_
    refine .bind (compilesOnly_listClause hgroups) fun _ => ?_
    refine .bind (compilesOnly_optionClause hgroupFilter) fun _ => ?_
    refine .bind (compilesOnly_listClause horder) fun _ => ?_
    exact .pure _
  . trivial

theorem compilesParts_setOperation : CompilesParts setOperation := by
  intro node
  unfold setOperation
  split
  . refine Action.compilesOnly_toSql (.bind (.compile ?_ _) fun _ => ?_)
    . exact List.mem_cons_self
    . refine .bind (.compile ?_ _) fun _ => .pure _
      exact List.mem_cons_of_mem _ List.mem_cons_self
  . trivial

theorem equality_eq (node : Node) :
    (equality node).CompilesOnly (· ∈ node.parts)
      ∨
    ∃ kind symbol left right op, node = .binary kind symbol left right ∧
      right.kind.isA Kind.Standard.null = true ∧ (op = BinaryOp.is ∨ op = BinaryOp.isNot) ∧
      equality node = .done (.replace (.binaryOp op left right)) := by
  unfold equality
  split
  . split
    . next kind symbol left right hnull =>
      refine .inr ⟨kind, symbol, left, right, _, rfl, hnull, ?_, rfl⟩
      split <;> simp
    . exact .inl (compilesParts_binary _)
  . exact .inl trivial

end Handler

end SqlExpr
