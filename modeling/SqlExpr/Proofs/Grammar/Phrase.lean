import SqlExpr.Proofs.Grammar.Token
import SqlExpr.Proofs.Node.Induction

/-!
This module contains what a text can say (`Phrase`), and what an expression of built-in nodes says
(`Node.phrase`). Texts cannot tell a chain in a chain of the same keyword from one long chain, nor a
chain of one operand from its operand, so phrases are compared in a canonical form.
-/

namespace SqlExpr

/--
What a text says. Values are not in the text, and brackets are only there to group.
-/
inductive Phrase where
  | placeholder
  | null
  | name (qualifier? : Option String) (s : String)
  | prefixed (symbol : String) (operand : Phrase)
  | infixed (symbol : String) (left right : Phrase)
  | chained (keyword : String) (operands : List Phrase)
  | call (name : String) (args : List Phrase)
  | select (query : Query Phrase)

namespace Phrase

def operands (keyword : String) : Phrase → List Phrase
  | .chained other operands => if other = keyword then operands else [.chained other operands]
  | t => [t]

def ofOperands (keyword : String) : List Phrase → Phrase
  | [t] => t
  | ts => .chained keyword ts

mutual

/--
A phrase in which no chain has one operand, or an operand that is a chain with the same keyword.
-/
def canonical : Phrase → Phrase
  | .placeholder => .placeholder
  | .null => .null
  | .name qualifier? s => .name qualifier? s
  | .prefixed symbol operand => .prefixed symbol operand.canonical
  | .infixed symbol left right => .infixed symbol left.canonical right.canonical
  | .chained keyword operands => ofOperands keyword (operandsAll keyword operands)
  | .call s args => .call s (canonicalAll args)
  | .select query => .select (canonicalQuery query)

def canonicalAll : List Phrase → List Phrase
  | [] => []
  | t :: ts => t.canonical :: canonicalAll ts

def operandsAll (keyword : String) : List Phrase → List Phrase
  | [] => []
  | t :: ts => t.canonical.operands keyword ++ operandsAll keyword ts

def canonicalOption : Option Phrase → Option Phrase
  | none => none
  | some t => some t.canonical

def canonicalQuery : Query Phrase → Query Phrase
  | ⟨distinct, columns, sources, filter, groups, groupFilter, order, limit, offset⟩ =>
    ⟨distinct, canonicalAll columns, canonicalAll sources, canonicalOption filter,
      canonicalAll groups, canonicalOption groupFilter, canonicalAll order, limit, offset⟩

end

theorem canonicalAll_eq_map (ts : List Phrase) : canonicalAll ts = ts.map canonical := by
  induction ts with
  | nil => rfl
  | cons t ts ih =>
    unfold canonicalAll
    rw [ih]
    rfl

theorem operandsAll_eq_flatMap (keyword : String) (ts : List Phrase) :
    operandsAll keyword ts = (ts.map canonical).flatMap (operands keyword) := by
  induction ts with
  | nil => rfl
  | cons t ts ih =>
    unfold operandsAll
    rw [ih]
    rfl

end Phrase

namespace Node

def isNullLiteral : Node → Bool
  | .literal x => x.toValue.isNull
  | _ => false

/--
How an operator is written before its right operand. Nothing equals null, so comparisons with it say
whether something is null.
-/
def writtenSymbol (symbol : String) (right : Node) : String :=
  if right.isNullLiteral then
    match symbol with
    | "=" => "IS"
    | "!=" => "IS NOT"
    | symbol => symbol
  else
    symbol

mutual

/--
What an expression says. Foreign nodes are not part of the language.
-/
def phrase : Node → Phrase
  | .literal x => if x.toValue.isNull then .null else .placeholder
  | .unary _ symbol operand => .prefixed symbol operand.phrase
  | .binary _ symbol left right => .infixed (writtenSymbol symbol right) left.phrase right.phrase
  | .chain _ keyword first rest => .chained keyword (first.phrase :: phraseAll rest)
  | .call _ name args => .call name (phraseAll args)
  | .table name => .name none name
  | .column table? name => .name table? name
  | .select query => .select (phraseQuery query)
  | .setOperation op left right => .infixed op.keyword left.phrase right.phrase
  | .foreign _ _ _ _ => .placeholder

def phraseAll : List Node → List Phrase
  | [] => []
  | node :: nodes => node.phrase :: phraseAll nodes

def phraseOption : Option Node → Option Phrase
  | none => none
  | some node => some node.phrase

def phraseQuery : Query Node → Query Phrase
  | ⟨distinct, columns, sources, filter, groups, groupFilter, order, limit, offset⟩ =>
    ⟨distinct, phraseAll columns, phraseAll sources, phraseOption filter, phraseAll groups,
      phraseOption groupFilter, phraseAll order, limit, offset⟩

end

/--
Whether an expression is made of built-in nodes of their built-in kinds, and all names in it are
identifiers that the language does not reserve.
-/
inductive BuiltIn : Node → Prop where
  | literal (x : Literal) : BuiltIn (.literal x)
  | unary (op : UnaryOp) {operand : Node} (hoperand : BuiltIn operand) :
      BuiltIn (.unaryOp op operand)
  | binary (op : BinaryOp) {left right : Node} (hleft : BuiltIn left) (hright : BuiltIn right) :
      BuiltIn (.binaryOp op left right)
  | chain (op : ChainOp) {first : Node} {rest : List Node}
      (hoperands : ∀ node ∈ first :: rest, BuiltIn node) :
      BuiltIn (.chain op.kind op.keyword first rest)
  | call {kind : Kind} {name : String} {args : List Node}
      (hkind : kind ∈ [Kind.Standard.function, Kind.Standard.min, Kind.Standard.max,
        Kind.Standard.sqrt, Kind.Standard.power])
      (hname : Identifier name) (hargs : ∀ node ∈ args, BuiltIn node) :
      BuiltIn (.call kind name args)
  | table {name : String} (hname : Identifier name) : BuiltIn (.table name)
  | column {table? : Option String} {name : String} (htable : ∀ table ∈ table?, Identifier table)
      (hname : Identifier name) : BuiltIn (.column table? name)
  | select {query : Query Node} (hparts : ∀ node ∈ query.parts, BuiltIn node) :
      BuiltIn (.select query)
  | setOperation (op : SetOp) {left right : Node} (hleft : BuiltIn left)
      (hright : BuiltIn right) : BuiltIn (.setOperation op left right)

end Node

end SqlExpr
