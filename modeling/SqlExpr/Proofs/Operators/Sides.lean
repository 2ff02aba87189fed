import SqlExpr.Proofs.Demand

/-!
This module contains which operands are bracketed on a side that an operator does not associate to:
those that bind no more tightly than the operator, as long as anything can bind more tightly
(`Compiler.sides_enclosed_iff`). It holds for every compiler that leaves operators to the built-in
handlers.
-/

namespace SqlExpr

open Handler (infixText operandDemands)

namespace Compiler

/--
Whether a compiler writes a node as two operands with a symbol between them.
-/
inductive WritesInfix (c : Compiler) : Node → Node → String → Node → Prop where
  | binary {kind : Kind} (symbol : String) (left right : Node)
      (hlookup : c.lookup? kind = some Handler.binary) :
      WritesInfix c (.binary kind symbol left right) left symbol right
  | comparison {kind : Kind} (symbol : String) (left : Node) {right : Node}
      (hlookup : c.lookup? kind = some Handler.equality)
      (hnull : right.kind.isA Kind.Standard.null = false) :
      WritesInfix c (.binary kind symbol left right) left symbol right
  | setOperation {op : SetOp} (left right : Node)
      (hlookup : c.lookup? op.kind = some Handler.setOperation) :
      WritesInfix c (.setOperation op left right) left op.keyword right

/--
Whether a text is that of an operand on a side that an operator of precedence `own` does not
associate to. There are brackets around it if the operand, or what replaces it, binds no more
tightly than the operator; but if the operator binds as tightly as possible, then not around
operands of its own rank.
-/
def WritesSide (c : Compiler) (own : Precedence) (operand : Node) (s : State) (text : String) :
    Prop :=
  ∃ last view inner after, Relation.ReflTransGen c.Replaces (operand, s) (last, view) ∧
    c.Makes last view (.sql inner) after ∧
    text =
      if last.precedence ≤ own ∧ (own = .greatest → last.precedence.rank ≠ Int32.maxValue)
      then "(" ++ inner ++ ")" else inner

variable {c : Compiler} {node left right operand : Node} {symbol text : String}
  {own p : Precedence} {s s' : State}

/--
Every operator between two operands asks for the text of the left one first and of the right one
after that. All set operations associate to the left.
-/
theorem WritesInfix.exists_handler (h : c.WritesInfix node left symbol right) :
    ∃ handler, c.lookup? node.kind = some handler ∧ handler node = Action.toSql (do
      let leftText ← Action.compile left (.exactly (operandDemands node.precedence).1)
      let rightText ← Action.compile right (.exactly (operandDemands node.precedence).2)
      pure (infixText leftText symbol rightText)) := by
  cases h with
  | binary _ _ _ hlookup => exact ⟨_, hlookup, rfl⟩
  | comparison _ _ hlookup hnull =>
    refine ⟨_, hlookup, ?_⟩
    simp only [Handler.equality, hnull]
    rfl
  | @setOperation op _ _ hlookup =>
    have hdemands : operandDemands op.kind.precedence
        = (op.kind.precedence, op.kind.precedence.nextTighter) := by cases op <;> rfl
    refine ⟨_, hlookup, ?_⟩
    simp only [Node.precedence, Node.kind, hdemands]
    rfl

theorem exists_of_run_compile {next : String → Program} {compile : CompileFn} {after : State}
    {fragment : Fragment}
    (h : (Action.compile operand (.exactly p) next).run c compile s = some (.ok fragment, after)) :
    ∃ text between, compile operand p s = some (.ok text, between) ∧
      (next text).run c compile between = some (.ok fragment, after) := by
  change (Program.compile operand (.exactly p) _).run c compile s = _ at h
  simp only [Program.run, CompileFn.withDemand, Demand.resolve] at h
  cases hcompile : compile operand p s with
  | none =>
    rw [hcompile] at h
    cases h
  | some r =>
    obtain ⟨result, between⟩ := r
    rw [hcompile] at h
    cases result with
    | error e => cases h
    | ok text => exact ⟨text, between, rfl, h⟩

/--
The text of an operator is made from the texts of its operands, compiled one after the other.
-/
theorem WritesInfix.exists_operands (h : c.WritesInfix node left symbol right)
    (hcompiles : c.Compiles node p s (.ok text, s')) :
    ∃ leftText rightText between after,
      c.Compiles left (operandDemands node.precedence).1
        (.inner (State.demandFrame node.precedence) s) (.ok leftText, between) ∧
      c.Compiles right (operandDemands node.precedence).2 between (.ok rightText, after) ∧
      text = bracket node.precedence p (infixText leftText symbol rightText) := by
  obtain ⟨handler, hlookup, hhandler⟩ := h.exists_handler
  obtain ⟨depth, hcompile⟩ := hcompiles
  cases depth with
  | zero => cases hcompile
  | succ depth =>
    rw [compileAt_of_lookup? hlookup, serveWith, Option.bind_eq_some_iff] at hcompile
    obtain ⟨⟨result, after⟩, hrun, hfinish⟩ := hcompile
    cases result with
    | error e => cases hfinish
    | ok fragment =>
      rw [hhandler] at hrun
      obtain ⟨leftText, between, hleft, hrun⟩ := exists_of_run_compile hrun
      obtain ⟨rightText, last, hright, hrun⟩ := exists_of_run_compile hrun
      cases hrun
      cases hfinish
      exact ⟨leftText, rightText, between, after, ⟨depth, hleft⟩, ⟨depth, hright⟩, rfl⟩

theorem writesSide_of_compiles (h : c.Compiles operand own.nextTighter s (.ok text, s')) :
    c.WritesSide own operand s text := by
  rcases (compiles_up_to_brackets h h).2 with ⟨e, herror, _⟩ | ⟨last, view, inner, after, hchain,
    hmakes, _, htext, _⟩
  . cases herror
  . injection htext with htext
    simp only [Precedence.lt_nextTighter_iff] at htext
    exact ⟨last, view, inner, after, hchain, hmakes, htext⟩

/--
Below the next tighter precedence is what binds no more tightly, exactly if the precedence is not the
greatest one. Next to that, what has the largest rank is not below. So on the sides that an operator
does not associate to, the operands in brackets are those that bind no more tightly than the
operator, with this exception.
-/
theorem sides_enclosed_iff (own : Precedence) :
    (∀ q : Precedence,
      q < own.nextTighter ↔ q ≤ own ∧ (own = .greatest → q.rank ≠ Int32.maxValue)) ∧
    ((∀ q : Precedence, q < own.nextTighter ↔ q ≤ own) ↔ own ≠ .greatest) ∧
    ∀ (c : Compiler) node left symbol right, c.WritesInfix node left symbol right →
      node.precedence = own → ∀ p s text s', c.Compiles node p s (.ok text, s') →
      ∃ leftText rightText between,
        text = bracket own p (infixText leftText symbol rightText) ∧
        (own.associativity ≠ .left →
          c.WritesSide own left (.inner (State.demandFrame own) s) leftText) ∧
        (own.associativity ≠ .right → c.WritesSide own right between rightText) := by
  refine ⟨?_, ?_, ?_⟩
  . intro q
    exact Precedence.lt_nextTighter_iff
  . constructor
    . intro h hgreatest
      have hlt := (h own).2 (Precedence.le_refl own)
      rw [hgreatest] at hlt
      exact absurd hlt (by decide)
    . intro hgreatest q
      rw [Precedence.lt_nextTighter_iff, and_iff_left]
      intro heq
      contradiction
  . intro c node left symbol right hwrites hown p s text s' hcompiles
    subst hown
    obtain ⟨leftText, rightText, between, after, hleft, hright, htext⟩ :=
      hwrites.exists_operands hcompiles
    refine ⟨leftText, rightText, between, htext, ?_, ?_⟩
    . intro hassociativity
      rw [Precedence.operandDemands_left hassociativity] at hleft
      exact writesSide_of_compiles hleft
    . intro hassociativity
      rw [Precedence.operandDemands_right hassociativity] at hright
      exact writesSide_of_compiles hright

/--
A comparison of two comparisons, which associate to neither side.
-/
theorem sides_enclosed_iff_equal :
    let less (left right : String) := Node.binaryOp .lessThan (.column none left) (.column none right)
    let node := Node.binaryOp .equal (less "a" "b") (less "c" "d")
    let own := Kind.Standard.equal.precedence
    standard.WritesInfix node (less "a" "b") "=" (less "c" "d") ∧
      standard.Compiles node .loosest .new (.ok "(a < b) = (c < d)", .new) ∧
      own.associativity = .none ∧
      ∃ leftText rightText between, "(a < b) = (c < d)" = infixText leftText "=" rightText ∧
        standard.WritesSide own (less "a" "b") (.inner (State.demandFrame own) .new) leftText ∧
        standard.WritesSide own (less "c" "d") between rightText := by
  intro less node own
  have hwrites : standard.WritesInfix node (less "a" "b") "=" (less "c" "d") :=
    .comparison "=" _ rfl rfl
  have hcompiles : standard.Compiles node .loosest .new (.ok "(a < b) = (c < d)", .new) :=
    (compiles_standard_iff (d := .generic) parameters_new).2 rfl
  have hleft : own.associativity ≠ .left := by decide
  have hright : own.associativity ≠ .right := by decide
  obtain ⟨leftText, rightText, between, htext, hsides⟩ :=
    (sides_enclosed_iff own).2.2 standard node _ _ _ hwrites rfl .loosest .new _ _ hcompiles
  exact ⟨hwrites, hcompiles, rfl, leftText, rightText, between, htext, hsides.1 hleft,
    hsides.2 hright⟩

end Compiler

/--
An operator of the greatest precedence does not keep an operand apart that binds less tightly.
-/
theorem looser_operand_not_enclosed :
    let append : Kind := .special "append" Kind.Standard.binaryOperator
      (some (.leftAssoc Int32.maxValue))
    let power : Kind := .special "power" Kind.Standard.binaryOperator
      (some (.rightAssoc Int32.maxValue))
    let column (name : String) := Node.column none name
    append.precedence < power.precedence ∧
    power.precedence.nextTighter < append.precedence ∧
    compile (.binary power "**" (.binary append "++" (column "a") (column "b")) (column "c"))
      = .ok ("(a) ++ (b) ** (c)", []) ∧
    ¬ ∀ p q : Precedence, q < p.nextTighter ↔ q ≤ p := by
  intro append power column
  refine ⟨by decide, by decide, ?_, ?_⟩
  . simp only [append, power, column, compile_eq_outcome]
    rfl
  . intro h
    have hlt := (h power.precedence power.precedence).2 (Precedence.le_refl _)
    exact absurd hlt (by decide)

end SqlExpr
