import SqlExpr.Proofs.Grammar.Phrase

/-!
This module contains the operator-precedence grammar of the language: which tokens read as which
phrase, and how tightly they bind (`Reads`).

An operator that associates to the left may have an operand of its own precedence on its left side;
every other operand binds more tightly than its operator, but for the one of an operator that stands
before it. A chain is a list of operands. Between separators, in the arguments of a call and in the
clauses of a query, there is everything but a query that is not in brackets.
-/

namespace SqlExpr

def UnaryOp.mark : UnaryOp → Mark
  | .plus => .plus
  | .minus => .minus
  | .not => .not

def ChainOp.mark : ChainOp → Mark
  | .and => .and
  | .or => .or

/--
What is written between two operands: an operator or an operation on queries.
-/
inductive Infix where
  | operator (op : BinaryOp)
  | setOperation (op : SetOp)
  deriving DecidableEq

namespace Infix

def precedence : Infix → Precedence
  | .operator op => op.kind.precedence
  | .setOperation op => op.kind.precedence

def symbol : Infix → String
  | .operator op => op.symbol
  | .setOperation op => op.keyword

def marks : Infix → List Mark
  | .operator .add => [.plus]
  | .operator .subtract => [.minus]
  | .operator .multiply => [.star]
  | .operator .divide => [.slash]
  | .operator .modulo => [.percent]
  | .operator .isIn => [.in]
  | .operator .notIn => [.not, .in]
  | .operator .is => [.is]
  | .operator .isNot => [.is, .not]
  | .operator .equal => [.equal]
  | .operator .notEqual => [.notEqual]
  | .operator .greaterThan => [.greater]
  | .operator .greaterThanEqual => [.greaterEqual]
  | .operator .lessThan => [.less]
  | .operator .lessThanEqual => [.lessEqual]
  | .setOperation .union => [.union]
  | .setOperation .intersect => [.intersect]
  | .setOperation .except => [.except]

def tokens (op : Infix) : List Token := op.marks.map .mark

end Infix

/--
Whether an operator that binds with `own` may have a left operand that binds with `p`.
-/
def Precedence.AllowsLeft (own p : Precedence) : Prop :=
  match own.associativity with
  | .left => own ≤ p
  | .none | .right => own < p

def Precedence.query : Precedence := Kind.Standard.select.precedence

def listTokens (tokens : List (List Token)) : List Token :=
  [Token.mark .comma].intercalate tokens

def clauseTokens (keyword : List Mark) (tokens : List (List Token)) : List Token :=
  if tokens.isEmpty then [] else keyword.map .mark ++ listTokens tokens

def countTokens (keyword : Mark) : Option UInt64 → List Token
  | none => []
  | some count => [.mark keyword, .number count.toNat]

/--
The tokens of a query whose expressions are given by their tokens.
-/
def Query.tokens (q : Query (List Token)) : List Token :=
  [Token.mark .select] ++ (if q.distinct then [Token.mark .distinct] else [])
    ++ (if q.columns.isEmpty then [Token.mark .star] else listTokens q.columns)
    ++ clauseTokens [.from] q.sources ++ clauseTokens [.where] q.filter.toList
    ++ clauseTokens [.group, .by] q.groups ++ clauseTokens [.having] q.groupFilter.toList
    ++ clauseTokens [.order, .by] q.order ++ countTokens .limit q.limit
    ++ countTokens .offset q.offset

structure Reading where
  precedence : Precedence
  tokens : List Token
  phrase : Phrase

/--
Whether tokens read as a phrase that binds with a given precedence.
-/
inductive Reads : Precedence → List Token → Phrase → Prop where
  | placeholder : Reads .tightest [.mark .placeholder] .placeholder
  | null : Reads .tightest [.mark .null] .null
  | name (s : String) : Reads .tightest [.name s] (.name none s)
  | qualified (s s' : String) :
      Reads .tightest [.name s, .mark .dot, .name s'] (.name (some s) s')
  | bracketed {p : Precedence} {ts : List Token} {t : Phrase} (hp : .loosest ≤ p)
      (h : Reads p ts t) : Reads .tightest ([.mark .opening] ++ ts ++ [.mark .closing]) t
  | prefixed (op : UnaryOp) {p : Precedence} {ts : List Token} {t : Phrase}
      (hp : op.kind.precedence ≤ p) (h : Reads p ts t) :
      Reads op.kind.precedence ([.mark op.mark] ++ ts) (.prefixed op.symbol t)
  | infixed (op : Infix) {p p' : Precedence} {ts ts' : List Token} {t t' : Phrase}
      (hleft : op.precedence.AllowsLeft p) (hright : op.precedence < p') (h : Reads p ts t)
      (h' : Reads p' ts' t') :
      Reads op.precedence (ts ++ op.tokens ++ ts') (.infixed op.symbol t t')
  | chained (op : ChainOp) {items : List Reading} (htwo : 2 ≤ items.length)
      (hitems : ∀ item ∈ items, op.kind.precedence < item.precedence)
      (h : ∀ item ∈ items, Reads item.precedence item.tokens item.phrase) :
      Reads op.kind.precedence ([Token.mark op.mark].intercalate (items.map (·.tokens)))
        (.chained op.keyword (items.map (·.phrase)))
  | call (s : String) {args : List Reading} (hargs : ∀ arg ∈ args, .query < arg.precedence)
      (h : ∀ arg ∈ args, Reads arg.precedence arg.tokens arg.phrase) :
      Reads .tightest
        ([.name s, .mark .opening] ++ listTokens (args.map (·.tokens)) ++ [.mark .closing])
        (.call s (args.map (·.phrase)))
  | select {q : Query Reading} (hparts : ∀ part ∈ q.parts, .query < part.precedence)
      (h : ∀ part ∈ q.parts, Reads part.precedence part.tokens part.phrase) :
      Reads .query (q.map (·.tokens)).tokens (.select (q.map (·.phrase)))

end SqlExpr
