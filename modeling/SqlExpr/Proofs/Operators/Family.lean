import SqlExpr.Proofs.Grammar.Token
import SqlExpr.Proofs.Node.Blank
import SqlExpr.Proofs.Outcome

/-!
This module contains families of operators of any kinds (`Operators`), the expressions that are built
with them (`Operators.Over`), and the pieces of their texts (`pieces`). A piece is a word or a single
character of any other sort, so a symbol is always a piece of its own, whatever stands around it.
-/

namespace SqlExpr

/--
What operators of one sort have in common: how they are compiled, and how they are written.
-/
structure Operator where
  kind : Kind
  symbol : String

/--
Whether a text is a single character of punctuation that has no other meaning, or a word of letters
that is not null.
-/
def IsSymbol (text : String) : Prop :=
  (∃ c, text.toList = [c] ∧ isWord c = false ∧ c ∉ [' ', '(', ')', '.', ',', '?']) ∨
  (text.toList ≠ [] ∧ (∀ c ∈ text.toList, isAlphabetic c = true) ∧ text ≠ "NULL")

namespace Operator

/--
Whether an operator can be written before an operand. Kinds are told apart by their names, so no kind
of the lineage may have the name of the null kind.
-/
structure Prefixed (op : Operator) : Prop where
  below : op.kind.isA Kind.Standard.unaryOperator = true
  notNull : op.kind.isA Kind.Standard.null = false
  rank : op.kind.precedence.rank < Int32.maxValue
  associativity : op.kind.precedence.associativity ≠ .left
  symbol : IsSymbol op.symbol

/--
Whether an operator can be written between two operands, and is written in the same way between all
of them.
-/
structure Infixed (op : Operator) : Prop where
  below : op.kind.isA Kind.Standard.binaryOperator = true
  notNull : op.kind.isA Kind.Standard.null = false
  notEqual : op.kind.isA Kind.Standard.equal = false
  notUnequal : op.kind.isA Kind.Standard.notEqual = false
  rank : op.kind.precedence.rank < Int32.maxValue
  symbol : IsSymbol op.symbol

end Operator

/--
A family of operators in which a symbol before an operand, and one between two operands, belongs to
one kind only.
-/
structure Operators where
  prefixed : List Operator
  infixed : List Operator
  isPrefixed : ∀ op ∈ prefixed, op.Prefixed
  isInfixed : ∀ op ∈ infixed, op.Infixed
  prefixed_inj : ∀ op ∈ prefixed, ∀ op' ∈ prefixed, op.symbol = op'.symbol → op.kind = op'.kind
  infixed_inj : ∀ op ∈ infixed, ∀ op' ∈ infixed, op.symbol = op'.symbol → op.kind = op'.kind

namespace Operators

/--
Whether a text is an identifier that is not null and not the symbol of an operator.
-/
structure Named (ops : Operators) (name : String) : Prop where
  isName : isName name.toList = true
  ne_null : name ≠ "NULL"
  ne_symbol : ∀ op ∈ ops.prefixed ++ ops.infixed, op.symbol ≠ name

/--
Whether an expression is built from literals and columns with the operators of a family.
-/
inductive Over (ops : Operators) : Node → Prop where
  | literal (x : Literal) : ops.Over (.literal x)
  | column {table? : Option String} {name : String} (htable : ∀ table ∈ table?, ops.Named table)
      (hname : ops.Named name) : ops.Over (.column table? name)
  | prefixed {op : Operator} {operand : Node} (hop : op ∈ ops.prefixed)
      (hoperand : ops.Over operand) : ops.Over (.unary op.kind op.symbol operand)
  | infixed {op : Operator} {left right : Node} (hop : op ∈ ops.infixed) (hleft : ops.Over left)
      (hright : ops.Over right) : ops.Over (.binary op.kind op.symbol left right)

end Operators

/--
The words and single characters of a text, without spaces.
-/
def pieces (text : String) : List String :=
  ((text.toList.splitBy fun a b => isWord a && isWord b).filter (· ≠ [' '])).map .ofList

theorem pieces_append {text text' : String}
    (h : ∀ a ∈ text.toList.getLast?, ∀ b ∈ text'.toList.head?, (isWord a && isWord b) = false) :
    pieces (text ++ text') = pieces text ++ pieces text' := by
  unfold pieces
  rw [String.toList_append, List.splitBy_append h, List.filter_append, List.map_append]

theorem pieces_of_isWord {text : String} (hne : text.toList ≠ [])
    (h : ∀ c ∈ text.toList, isWord c = true) : pieces text = [text] := by
  have hchain : text.toList.IsChain fun a b => isWord a && isWord b := by
    apply List.Pairwise.isChain
    apply List.pairwise_of_forall_mem_list
    intro a ha b hb
    rw [h a ha, h b hb]
    rfl
  have hspace : text.toList ≠ [' '] := by
    intro heq
    rw [heq] at h
    exact absurd (h ' ' List.mem_cons_self) (by decide +kernel)
  unfold pieces
  rw [List.splitBy_of_isChain hne hchain]
  simp [hspace]

theorem pieces_of_char {text : String} {c : Char} (htext : text.toList = [c]) (hc : c ≠ ' ') :
    pieces text = [text] := by
  unfold pieces
  rw [htext, List.splitBy_of_isChain (by simp) (.singleton c)]
  rw [List.filter_cons_of_pos (by simpa using hc), List.filter_nil, ← htext]
  simp

theorem pieces_of_isName {text : String} (h : isName text.toList = true) : pieces text = [text] := by
  apply pieces_of_isWord _ (isWord_of_isName h)
  intro heq
  rw [heq] at h
  cases h

theorem pieces_of_isSymbol {text : String} (h : IsSymbol text) : pieces text = [text] := by
  rcases h with ⟨c, htext, _, hc⟩ | ⟨hne, halphabetic, _⟩
  . apply pieces_of_char htext
    intro heq
    rw [heq] at hc
    simp at hc
  . apply pieces_of_isWord hne
    intro c hmem
    simp [isWord, halphabetic c hmem]

/-! The pieces of the texts that the compiler puts together. -/

theorem pieces_words (text text' : String) :
    pieces (text ++ " " ++ text') = pieces text ++ pieces text' := by
  have hspace : pieces " " = [] := by decide +kernel
  rw [pieces_append, pieces_append, hspace, List.append_nil]
  . intro a _ b hb
    cases hb
    rw [Bool.and_comm]
    rfl
  . intro a ha b _
    rw [String.toList_append, List.getLast?_append] at ha
    cases ha
    rfl

theorem pieces_bracketed (text : String) :
    pieces ("(" ++ text ++ ")") = ["("] ++ pieces text ++ [")"] := by
  have hopening : pieces "(" = ["("] := by decide +kernel
  have hclosing : pieces ")" = [")"] := by decide +kernel
  rw [pieces_append, pieces_append, hopening, hclosing]
  . intro a ha b _
    cases ha
    rfl
  . intro a _ b hb
    cases hb
    rw [Bool.and_comm]
    rfl

theorem pieces_columnText {table name : String} (htable : isName table.toList = true)
    (hname : isName name.toList = true) : pieces (table ++ "." ++ name) = [table, ".", name] := by
  have hdot : pieces "." = ["."] := by decide +kernel
  rw [pieces_append, pieces_append, hdot, pieces_of_isName htable, pieces_of_isName hname]
  . rfl
  . intro a _ b hb
    cases hb
    rw [Bool.and_comm]
    rfl
  . intro a ha b _
    rw [String.toList_append, List.getLast?_append] at ha
    cases ha
    rfl

theorem pieces_infixText {symbol : String} (h : IsSymbol symbol) (left right : String) :
    pieces (Handler.infixText left symbol right) = pieces left ++ [symbol] ++ pieces right := by
  unfold Handler.infixText
  rw [pieces_words, pieces_words, pieces_of_isSymbol h]

theorem pieces_prefixText {symbol : String} (h : IsSymbol symbol) (text : String) :
    pieces (symbol ++ Handler.separator symbol text ++ text) = [symbol] ++ pieces text := by
  simp only [Handler.separator]
  split
  . rw [pieces_words, pieces_of_isSymbol h]
  . next hspace =>
    rw [String.append_empty, pieces_append, pieces_of_isSymbol h]
    -- A word would be followed by a space, so the symbol is a single character.
    rcases h with ⟨c, hsymbol, hc, _⟩ | ⟨hne, halphabetic, _⟩
    . intro a ha b _
      rw [hsymbol] at ha
      cases ha
      change (isWord c && isWord b) = false
      rw [hc, Bool.false_and]
    . have hlast := halphabetic _ (List.getLast_mem hne)
      simp [List.getLast?_eq_getLast_of_ne_nil hne, hlast] at hspace

end SqlExpr
