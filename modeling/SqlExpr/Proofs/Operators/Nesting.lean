import SqlExpr.Proofs.AnyState
import SqlExpr.Proofs.Grammar.Weight

/-!
This module contains what brackets an operator gets as an operand of a chain, and when there are none
that tell it from the same operator around the chain (`Compiler.nested_texts_eq_iff`).
-/

namespace SqlExpr

open Phrase (brackets)
open Handler (infixText)

theorem brackets_eq_zero_iff {own p : Precedence} : brackets own p = 0 ↔ p ≤ own := by
  rw [brackets, ← Precedence.not_lt]
  split <;> simp [*]

/-! Texts as characters. -/

theorem toList_bracket (own p : Precedence) (text : String) :
    (Compiler.bracket own p text).toList
      =
    List.replicate (brackets own p) '(' ++ text.toList ++ List.replicate (brackets own p) ')' := by
  unfold Compiler.bracket brackets
  split <;> simp

theorem toList_infixText (left symbol right : String) :
    (infixText left symbol right).toList
      =
    left.toList ++ ' ' :: (symbol.toList ++ ' ' :: right.toList) := by
  simp [infixText]

theorem replicate_append_cons_inj {a b : Char} (hne : b ≠ a) {m n : Nat} {xs ys : List Char}
    (h : List.replicate m a ++ b :: xs = List.replicate n a ++ b :: ys) : m = n := by
  have hfront := congrArg (fun cs => (cs.takeWhile (· = a)).length) h
  simpa [List.takeWhile_append, hne] using hfront

/--
Three pieces of text with spaces between them, and brackets around the one in the middle. Brackets
around the last two of them and brackets around the first two cannot give the same text, whatever
brackets stand around everything.
-/
theorem no_brackets_of_eq (front middle last : List Char) {m n k m' n' k' : Nat}
    (h : List.replicate m '(' ++ (front ++ ' ' :: (List.replicate n '(' ++
          (List.replicate k '(' ++ middle ++ List.replicate k ')' ++ ' ' :: last) ++
          List.replicate n ')')) ++ List.replicate m ')'
        =
      List.replicate m' '(' ++ (List.replicate n' '(' ++
          (front ++ ' ' :: (List.replicate k' '(' ++ middle ++ List.replicate k' ')')) ++
          List.replicate n' ')' ++ ' ' :: last) ++ List.replicate m' ')') :
    n = 0 ∧ n' = 0 := by
  have hlength := congrArg List.length h
  simp only [List.length_append, List.length_cons, List.length_replicate] at hlength
  have hsplit : (List.replicate m '(' ++ front ++ ' ' :: List.replicate (n + k) '(') ++
        (middle ++ (List.replicate k ')' ++ ' ' :: (last ++ List.replicate (n + m) ')')))
      = (List.replicate (m' + n') '(' ++ front ++ ' ' :: List.replicate k' '(') ++
        (middle ++ (List.replicate (k' + n') ')' ++ ' ' :: (last ++ List.replicate m' ')'))) := by
    simp only [List.append_assoc, List.cons_append, List.replicate_add] at h ⊢
    exact h
  -- Both have equally many brackets, so the piece in the middle stands in the same place.
  obtain ⟨hbefore, hafter⟩ := List.append_inj hsplit (by simp; omega)
  have hclosing : k = k' + n' :=
    replicate_append_cons_inj (by decide) (List.append_cancel_left hafter)
  have hopening : n + k = k' := by
    have hreverse := congrArg List.reverse hbefore
    simp only [List.reverse_append, List.reverse_cons, List.reverse_replicate, List.append_assoc,
      List.singleton_append] at hreverse
    exact replicate_append_cons_inj (by decide) hreverse
  omega

/--
An operator in a chain and the same operator around the chain, both with the same texts to join.
-/
theorem nested_text_eq_iff {outer kind own p : Precedence}
    {first keyword middle symbol last : String} :
    Compiler.bracket outer p (infixText first keyword (Compiler.bracket kind outer
        (infixText (Compiler.bracket own kind middle) symbol last)))
      =
    Compiler.bracket kind p (infixText (Compiler.bracket outer kind
        (infixText first keyword (Compiler.bracket own outer middle))) symbol last)
      ↔
    outer = kind := by
  constructor
  . intro h
    have hchars := congrArg String.toList h
    simp only [toList_bracket, toList_infixText] at hchars
    obtain ⟨hkind, houter⟩ := no_brackets_of_eq (first.toList ++ ' ' :: keyword.toList)
      middle.toList (symbol.toList ++ ' ' :: last.toList)
      (by simpa only [List.append_assoc, List.cons_append] using hchars)
    rw [brackets_eq_zero_iff] at hkind houter
    exact Precedence.le_antisymm hkind houter
  . intro h
    rw [h, bracket_self, bracket_self]
    simp only [infixText, String.append_assoc]

namespace Node

variable {d : Dialect} {kind : Kind} {symbol : String} {right : Node} {join : Node → Node}

theorem outcomeAll_append (nodes nodes' : List Node) (p : Precedence) :
    outcomeAll d (nodes ++ nodes') p
      =
    (do
      let texts ← outcomeAll d nodes p
      let texts' ← outcomeAll d nodes' p
      pure (texts ++ texts')) := by
  induction nodes with
  | nil => simp only [List.nil_append, outcomeAll, pure_bind, bind_pure]
  | cons node nodes ih =>
    simp only [List.cons_append, outcomeAll, ih, bind_assoc, pure_bind]

/--
The text of a chain around the text of one of its operands, which is any but the first.
-/
theorem outcome_chain_of_operand (h : kind.service? = some .chain) {keyword : String}
    {first operand : Node} {before behind : List Node} {front back : List String} {text : String}
    {us vs ws : List Value}
    (hfront : outcomeAll d (first :: before) kind.precedence = ⟨.ok front, us⟩)
    (hoperand : operand.outcome d kind.precedence = ⟨.ok text, vs⟩)
    (hback : outcomeAll d behind kind.precedence = ⟨.ok back, ws⟩) (p : Precedence) :
    (chain kind keyword first (before ++ operand :: behind)).outcome d p
      =
    ⟨.ok (Compiler.bracket kind.precedence p
      ((" " ++ keyword ++ " ").intercalate (front ++ text :: back))), us ++ (vs ++ ws)⟩ := by
  rw [outcome_chain h, ← List.cons_append, outcomeAll_append, hfront, outcomeAll, hoperand, hback,
    Outcome.bracketed_eq_ok_iff]
  simp only [Outcome.ok_bind, Outcome.pure_eq, List.append_nil]
  exact ⟨_, rfl, rfl⟩

theorem outcome_pair (h : kind.service? = some .chain) (keyword : String) (left right : Node)
    (p : Precedence) :
    (chain kind keyword left [right]).outcome d p
      =
    .bracketed kind.precedence p (.joined keyword (left.outcome d kind.precedence)
      (right.outcome d kind.precedence)) := by
  rw [outcome_chain h]
  simp [outcomeAll, Outcome.joined, infixText, String.append_assoc]

/--
The case of two operands.
-/
theorem outcome_pair_of_operand (h : kind.service? = some .chain) {keyword : String}
    {left right : Node} {text text' : String} {us vs : List Value}
    (hleft : left.outcome d kind.precedence = ⟨.ok text, us⟩)
    (hright : right.outcome d kind.precedence = ⟨.ok text', vs⟩) (p : Precedence) :
    (chain kind keyword left [right]).outcome d p
      =
    ⟨.ok (Compiler.bracket kind.precedence p (infixText text keyword text')), us ++ vs⟩ := by
  have hfront : outcomeAll d [left] kind.precedence = ⟨.ok [text], us⟩ := by
    simp only [outcomeAll, hleft, Outcome.ok_bind, Outcome.pure_eq, List.append_nil]
  have hback : outcomeAll d [] kind.precedence = ⟨.ok [], []⟩ := rfl
  have hpair : (" " ++ keyword ++ " ").intercalate [text, text'] = infixText text keyword text' := by
    simp [infixText, String.append_assoc]
  rw [← hpair, ← List.append_nil vs]
  exact outcome_chain_of_operand h hfront hright hback p

/--
The ways to join an operand with another one on its right: in a chain, or with an operator between
them that associates to the left.
-/
inductive Joins (kind : Kind) (symbol : String) (right : Node) : (Node → Node) → Prop where
  | chain (hservice : kind.service? = some .chain) :
      Joins kind symbol right fun left => .chain kind symbol left [right]
  | binary (hspelling : spelling? kind symbol right = some (kind.precedence, symbol))
      (hassociativity : kind.precedence.associativity = .left) :
      Joins kind symbol right fun left => .binary kind symbol left right

/--
The precedence of the kind is what is demanded of the operand on the left.
-/
theorem Joins.exists_outcome_eq (h : Joins kind symbol right join) :
    ∃ q, ∀ left p, (join left).outcome d p
      = .bracketed kind.precedence p
        (.joined symbol (left.outcome d kind.precedence) (right.outcome d q)) := by
  cases h with
  | chain hservice =>
    refine ⟨kind.precedence, ?_⟩
    intro left p
    apply outcome_pair hservice
  | binary hspelling hassociativity =>
    refine ⟨kind.precedence.nextTighter, ?_⟩
    intro left p
    have hdemands : Handler.operandDemands kind.precedence
        = (kind.precedence, kind.precedence.nextTighter) := by
      simp only [Handler.operandDemands, hassociativity]
    rw [outcome, hspelling]
    simp only [hdemands]

end Node

namespace Compiler

/--
Whether nodes compile to texts with one demand, each in a new state.
-/
def CompilesAll (c : Compiler) (p : Precedence) : List Node → List String → Prop :=
  List.Forall₂ fun node text => ∃ s, c.Compiles node p .new (.ok text, s)

theorem exists_compilesAll {d : Dialect} {nodes : List Node}
    (h : ∀ node ∈ nodes, ∃ text vs, (standard.withDialect d).CompilesTo node text vs)
    (p : Precedence) :
    ∃ texts vs, Node.outcomeAll d nodes p = ⟨.ok texts, vs⟩ ∧
      (standard.withDialect d).CompilesAll p nodes texts := by
  induction nodes with
  | nil => exact ⟨[], [], rfl, .nil⟩
  | cons node nodes ih =>
    rw [List.forall_mem_cons] at h
    obtain ⟨⟨text, us, hnode⟩, hnodes⟩ := h
    obtain ⟨texts, vs, hall, htexts⟩ := ih hnodes
    rw [compilesTo_standard_iff] at hnode
    obtain ⟨text', hnode⟩ := Node.outcome_of_demand hnode p
    refine ⟨text' :: texts, us ++ vs, ?_, .cons ⟨State.new.addValues us, ?_⟩ htexts⟩
    . simp only [Node.outcomeAll, hnode, hall, Outcome.ok_bind, Outcome.pure_eq, List.append_nil]
    . rw [compiles_standard_iff parameters_new, hnode]

/--
An operand of a chain, but not the first one, is bracketed if and only if it binds less tightly than
the chain. All others are compiled with the demand of the chain.
-/
theorem compilesTo_chain_of_operand {d : Dialect} {outer : Kind} {own : Precedence}
    {keyword inner : String} {first operand : Node} {before behind : List Node} {vs : List Value}
    (houter : outer.service? = some .chain)
    (hoperand : ∀ p, operand.outcome d p = ⟨.ok (bracket own p inner), vs⟩)
    (h : ∀ node ∈ first :: (before ++ behind), ∃ text us,
      (standard.withDialect d).CompilesTo node text us) :
    ∃ front back us,
      (standard.withDialect d).CompilesAll outer.precedence (first :: before) front ∧
      (standard.withDialect d).CompilesAll outer.precedence behind back ∧
      (standard.withDialect d).CompilesTo (.chain outer keyword first (before ++ operand :: behind))
        (bracket outer.precedence .loosest ((" " ++ keyword ++ " ").intercalate
          (front ++ bracket own outer.precedence inner :: back))) us := by
  rw [← List.cons_append, List.forall_mem_append] at h
  obtain ⟨front, us, hfront, hbefore⟩ := exists_compilesAll h.1 outer.precedence
  obtain ⟨back, ws, hback, hbehind⟩ := exists_compilesAll h.2 outer.precedence
  refine ⟨front, back, us ++ (vs ++ ws), hbefore, hbehind, ?_⟩
  rw [compilesTo_standard_iff]
  exact Node.outcome_chain_of_operand houter hfront (hoperand outer.precedence) hback .loosest

/--
An operator that is an operand of a chain, but not the first one, is bracketed if and only if it binds
less tightly than the chain, however many operands there are. As the last operand of two it has
another text than around the chain, unless both bind equally tightly.
-/
theorem nested_texts_eq_iff (d : Dialect) {outer kind : Kind} {keyword symbol : String}
    {a b c : Node} {join : Node → Node} {aText bText cText : String} {us vs ws : List Value}
    (houter : outer.service? = some .chain) (hjoin : Node.Joins kind symbol c join)
    (ha : (standard.withDialect d).CompilesTo a aText us)
    (hb : (standard.withDialect d).CompilesTo b bText vs)
    (hc : (standard.withDialect d).CompilesTo c cText ws) :
    ∃ inner, (∃ s, (standard.withDialect d).Compiles (join b) kind.precedence .new (.ok inner, s)) ∧
      (∀ before behind, (∀ node ∈ before ++ behind, ∃ text values,
          (standard.withDialect d).CompilesTo node text values) →
        ∃ front back values,
          (standard.withDialect d).CompilesAll outer.precedence (a :: before) front ∧
          (standard.withDialect d).CompilesAll outer.precedence behind back ∧
          (standard.withDialect d).CompilesTo (.chain outer keyword a (before ++ join b :: behind))
            (bracket outer.precedence .loosest ((" " ++ keyword ++ " ").intercalate
              (front ++ bracket kind.precedence outer.precedence inner :: back))) values) ∧
      ∃ first text text',
        text = bracket outer.precedence .loosest
          (infixText first keyword (bracket kind.precedence outer.precedence inner)) ∧
        (standard.withDialect d).CompilesTo (.chain outer keyword a [join b]) text
          (us ++ (vs ++ ws)) ∧
        (standard.withDialect d).CompilesTo (join (.chain outer keyword a [b])) text'
          (us ++ (vs ++ ws)) ∧
        (text = text' ↔ outer.precedence = kind.precedence) := by
  have hfirst : ∃ text values, (standard.withDialect d).CompilesTo a text values := ⟨_, _, ha⟩
  rw [compilesTo_standard_iff] at ha hb hc
  obtain ⟨q, hjoin⟩ := hjoin.exists_outcome_eq
  obtain ⟨own, o, hmiddle⟩ := Node.outcome_eq_bracketed d b
  obtain ⟨first, ha⟩ := Node.outcome_of_demand ha outer.precedence
  obtain ⟨last, hlast⟩ := Node.outcome_of_demand hc q
  rw [hmiddle, Outcome.bracketed_eq_ok_iff] at hb
  obtain ⟨middle, rfl, _⟩ := hb
  have hmiddle (p : Precedence) : b.outcome d p = ⟨.ok (bracket own p middle), vs⟩ := by
    rw [hmiddle, Outcome.bracketed_eq_ok_iff]
    exact ⟨middle, rfl, rfl⟩
  have hinner (p : Precedence) : (join b).outcome d p
      = ⟨.ok (bracket kind.precedence p
          (infixText (bracket own kind.precedence middle) symbol last)), vs ++ ws⟩ := by
    rw [hjoin, Outcome.bracketed_eq_ok_iff]
    exact ⟨_, Outcome.joined_eq_ok_iff.2 ⟨_, _, _, _, hmiddle _, hlast, rfl, rfl⟩, rfl⟩
  refine ⟨infixText (bracket own kind.precedence middle) symbol last,
    ⟨State.new.addValues (vs ++ ws), ?_⟩, ?_, first, _, _, rfl, ?_, ?_, nested_text_eq_iff⟩
  . rw [compiles_standard_iff parameters_new, hinner, bracket_self]
  . intro before behind h
    exact compilesTo_chain_of_operand houter hinner (List.forall_mem_cons.2 ⟨hfirst, h⟩)
  . rw [compilesTo_standard_iff]
    exact Node.outcome_pair_of_operand houter ha (hinner _) .loosest
  . have hpair : (Node.chain outer keyword a [b]).outcome d kind.precedence = _ :=
      Node.outcome_pair_of_operand houter ha (hmiddle _) kind.precedence
    rw [compilesTo_standard_iff, hjoin, ← List.append_assoc, Outcome.bracketed_eq_ok_iff]
    exact ⟨_, Outcome.joined_eq_ok_iff.2 ⟨_, _, _, _, hpair, hlast, rfl, rfl⟩, rfl⟩

/--
A disjunction in a conjunction, and a conjunction in a disjunction.
-/
theorem nested_texts_eq_iff_or :
    let c := standard.withDialect .generic
    let column (name : String) := Node.column none name
    let join (left : Node) := Node.chain Kind.Standard.or "OR" left [column "c"]
    Node.Joins Kind.Standard.or "OR" (column "c") join ∧
    (∀ name ∈ ["a", "b", "c"], c.CompilesTo (column name) name []) ∧
    ∃ text text',
      c.CompilesTo (.chain Kind.Standard.and "AND" (column "a") [join (column "b")]) text [] ∧
      c.CompilesTo (join (.chain Kind.Standard.and "AND" (column "a") [column "b"])) text' [] ∧
      text ≠ text' := by
  intro c column join
  have hjoin : Node.Joins Kind.Standard.or "OR" (column "c") join := .chain rfl
  have hand : Kind.Standard.and.service? = some .chain := rfl
  have hcolumn (name : String) : c.CompilesTo (column name) name [] :=
    compilesTo_standard_iff.2 rfl
  refine ⟨hjoin, fun name _ => hcolumn name, ?_⟩
  obtain ⟨_, _, _, _, text, text', _, htext, htext', hiff⟩ :=
    nested_texts_eq_iff .generic hand hjoin (hcolumn "a") (hcolumn "b") (hcolumn "c")
  refine ⟨text, text', htext, htext', ?_⟩
  intro heq
  exact absurd (hiff.1 heq) (by decide)

end Compiler

/--
An operator and a chain that both inherit their precedence run together.
-/
theorem inherited_operators_run_together :
    let either : Kind := .special "either" Kind.Standard.booleanChain none
    let concat : Kind := .special "concat" Kind.Standard.binaryOperator none
    let column (name : String) := Node.column none name
    either.isA Kind.Standard.booleanChain = true ∧
    concat.isA Kind.Standard.binaryOperator = true ∧
    concat.precedence.associativity = .left ∧
    compile (.chain either "XOR" (column "a") [.binary concat "||" (column "b") (column "c")])
      = .ok ("a XOR b || c", []) ∧
    compile (.binary concat "||" (.chain either "XOR" (column "a") [column "b"]) (column "c"))
      = .ok ("a XOR b || c", []) ∧
    ¬ ∀ (outer kind : Kind) (keyword symbol a b c text text' : String),
      outer.isA Kind.Standard.booleanChain = true → kind.isA Kind.Standard.binaryOperator = true →
      kind.precedence.associativity = .left → keyword ≠ symbol →
      compile (.chain outer keyword (column a) [.binary kind symbol (column b) (column c)])
        = .ok (text, []) →
      compile (.binary kind symbol (.chain outer keyword (column a) [column b]) (column c))
        = .ok (text', []) →
      text ≠ text' := by
  intro either concat column
  have hinside : compile (.chain either "XOR" (column "a")
      [.binary concat "||" (column "b") (column "c")]) = .ok ("a XOR b || c", []) := by
    simp only [either, concat, column, compile_eq_outcome]
    rfl
  have haround : compile (.binary concat "||" (.chain either "XOR" (column "a") [column "b"])
      (column "c")) = .ok ("a XOR b || c", []) := by
    simp only [either, concat, column, compile_eq_outcome]
    rfl
  refine ⟨rfl, rfl, rfl, hinside, haround, ?_⟩
  intro h
  exact h either concat "XOR" "||" "a" "b" "c" _ _ rfl rfl rfl (by decide) hinside haround rfl

end SqlExpr
