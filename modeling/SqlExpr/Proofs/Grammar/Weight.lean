import Mathlib.Algebra.Order.BigOperators.Group.List
import Mathlib.Algebra.Order.Ring.Nat
import SqlExpr.Proofs.Grammar.ReadBack

/-!
This module contains a bound on the brackets of a text. What a text says, with equality to null taken
as identity (`Phrase.identified`), has a cost: the brackets that it cannot be written without. No
tokens that read as a phrase weigh less than the phrase costs (`Reads.costAt_le`).

Equals signs have a weight, too. An equality to null is looked at as an identity, which binds less
tightly, and so it may have one bracket less than it would have as an identity; but then it has an
equals sign more.
-/

namespace SqlExpr

namespace Query

variable {α β γ : Type}

theorem map_map (f : α → β) (g : β → γ) (q : Query α) :
    (q.map f).map g = q.map fun a => g (f a) := by
  simp only [map, List.map_map, Option.map_map, Function.comp_def]

end Query

/--
The number of opening brackets and equals signs in a text.
-/
def weight (text : String) : Nat :=
  text.toList.countP fun c => c == '(' || c == '='

theorem weight_append (text text' : String) :
    weight (text ++ text') = weight text + weight text' := by
  simp [weight, String.toList_append]

namespace Token

def weight : Token → Nat
  | .mark m => SqlExpr.weight m.text
  | .number _ => 0
  | .name s => SqlExpr.weight s
  | .other s => SqlExpr.weight s

def weightAll (toks : List Token) : Nat :=
  (toks.map weight).sum

@[simp]
theorem weightAll_nil : weightAll [] = 0 := rfl

@[simp]
theorem weightAll_cons (tok : Token) (toks : List Token) :
    weightAll (tok :: toks) = tok.weight + weightAll toks := rfl

@[simp]
theorem weightAll_append (toks toks' : List Token) :
    weightAll (toks ++ toks') = weightAll toks + weightAll toks' := by
  simp [weightAll]

theorem weight_ofChars_le (cs : List Char) :
    (ofChars cs).weight ≤ cs.countP fun c => c == '(' || c == '=' := by
  unfold ofChars
  split
  . next m hm =>
    have htext := List.find?_some hm
    rw [decide_eq_true_eq] at htext
    simp [weight, SqlExpr.weight, htext]
  . split
    . apply Nat.zero_le
    . split <;> simp [weight, SqlExpr.weight]

end Token

theorem weightAll_tokens_le (text : String) : Token.weightAll (tokens text) ≤ weight text := by
  let parts := text.toList.splitBy joins
  let count := List.countP fun c => c == '(' || c == '='
  have hwords : (parts.filter (· ≠ [' '])).Sublist parts := List.filter_sublist
  calc Token.weightAll (tokens text)
    _ = ((parts.filter (· ≠ [' '])).map fun cs => (Token.ofChars cs).weight).sum := by
      simp [Token.weightAll, tokens, parts, Function.comp_def]
    _ ≤ (parts.map fun cs => (Token.ofChars cs).weight).sum :=
      (hwords.map _).sum_le_sum fun _ _ => Nat.zero_le _
    _ ≤ (parts.map count).sum := List.sum_le_sum fun cs _ => Token.weight_ofChars_le cs
    _ = count parts.flatten := List.countP_flatten.symm
    _ = weight text := by rw [List.flatten_splitBy, weight]

theorem Infix.weightAll_tokens (op : Infix) : Token.weightAll op.tokens = weight op.symbol := by
  cases op with
  | operator op => cases op <;> decide
  | setOperation op => cases op <;> decide

def UnaryOp.all : List UnaryOp := [.plus, .minus, .not]

def ChainOp.all : List ChainOp := [.and, .or]

def Infix.all : List Infix :=
  [BinaryOp.add, .subtract, .multiply, .divide, .modulo, .isIn, .notIn, .is, .isNot, .equal,
    .notEqual, .greaterThan, .greaterThanEqual, .lessThan, .lessThanEqual].map .operator
  ++ [SetOp.union, .intersect, .except].map .setOperation

namespace Phrase

/--
How an operator is understood before its right operand: equality to null as identity.
-/
def identitySymbol (symbol : String) (right : Phrase) : String :=
  match right with
  | .null =>
    match symbol with
    | "=" => "IS"
    | "!=" => "IS NOT"
    | symbol => symbol
  | _ => symbol

mutual

/--
A phrase in which comparisons with null are identity tests.
-/
def identified : Phrase → Phrase
  | .placeholder => .placeholder
  | .null => .null
  | .name qualifier? s => .name qualifier? s
  | .prefixed symbol operand => .prefixed symbol operand.identified
  | .infixed symbol left right =>
    .infixed (identitySymbol symbol right) left.identified right.identified
  | .chained keyword operands => .chained keyword (identifiedAll operands)
  | .call s args => .call s (identifiedAll args)
  | .select query => .select (identifiedQuery query)

def identifiedAll : List Phrase → List Phrase
  | [] => []
  | t :: ts => t.identified :: identifiedAll ts

def identifiedOption : Option Phrase → Option Phrase
  | none => none
  | some t => some t.identified

def identifiedQuery : Query Phrase → Query Phrase
  | ⟨distinct, columns, sources, filter, groups, groupFilter, order, limit, offset⟩ =>
    ⟨distinct, identifiedAll columns, identifiedAll sources, identifiedOption filter,
      identifiedAll groups, identifiedOption groupFilter, identifiedAll order, limit, offset⟩

end

theorem identifiedAll_eq_map (ts : List Phrase) : identifiedAll ts = ts.map identified := by
  induction ts with
  | nil => rfl
  | cons t ts ih =>
    unfold identifiedAll
    rw [ih]
    rfl

theorem identifiedQuery_eq_map (q : Query Phrase) : identifiedQuery q = q.map identified := by
  obtain ⟨distinct, columns, sources, filter, groups, groupFilter, order, limit, offset⟩ := q
  have hoption (t? : Option Phrase) : identifiedOption t? = t?.map identified := by
    cases t? <;> rfl
  simp only [identifiedQuery, Query.map, identifiedAll_eq_map, hoption]

/-! What phrases cost. -/

def prefixedPrecedence (symbol : String) : Precedence :=
  ((UnaryOp.all.find? (·.symbol = symbol)).map (·.kind.precedence)).getD .tightest

def infixedPrecedence (symbol : String) : Precedence :=
  ((Infix.all.find? (·.symbol = symbol)).map Infix.precedence).getD .tightest

def chainedPrecedence (keyword : String) : Precedence :=
  ((ChainOp.all.find? (·.keyword = keyword)).map (·.kind.precedence)).getD .tightest

/--
How tightly a phrase binds if it is written without brackets around it.
-/
def precedence : Phrase → Precedence
  | .prefixed symbol _ => prefixedPrecedence symbol
  | .infixed symbol _ _ => infixedPrecedence symbol
  | .chained keyword _ => chainedPrecedence keyword
  | .select _ => .query
  | _ => .tightest

def brackets (own demanded : Precedence) : Nat :=
  if own < demanded then 1 else 0

mutual

/--
The weight that a phrase cannot be written without, if there are no brackets around it.
-/
def cost : Phrase → Nat
  | .placeholder => 0
  | .null => 0
  | .name qualifier? s => (qualifier?.elim 0 weight) + weight s
  | .prefixed symbol operand =>
    operand.cost + brackets operand.precedence (prefixedPrecedence symbol)
  | .infixed symbol left right =>
    let demands := Handler.operandDemands (infixedPrecedence symbol)
    left.cost + brackets left.precedence demands.1 + weight symbol
      + (right.cost + brackets right.precedence demands.2)
  | .chained keyword operands => costAll (chainedPrecedence keyword) operands
  | .call s args => weight s + 1 + costAll .clause args
  | .select query => costQuery query

def costAll (p : Precedence) : List Phrase → Nat
  | [] => 0
  | t :: ts => t.cost + brackets t.precedence p + costAll p ts

def costOption : Option Phrase → Nat
  | none => 0
  | some t => t.cost + brackets t.precedence .clause

def costQuery : Query Phrase → Nat
  | ⟨_, columns, sources, filter, groups, groupFilter, order, _, _⟩ =>
    costAll .clause columns + costAll .clause sources + costOption filter
      + costAll .clause groups + costOption groupFilter + costAll .clause order

end

/--
The weight that a phrase cannot be written without where a precedence is demanded of it.
-/
def costAt (p : Precedence) (t : Phrase) : Nat :=
  t.cost + brackets t.precedence p

theorem costAll_eq_sum (p : Precedence) (ts : List Phrase) :
    costAll p ts = (ts.map (costAt p)).sum := by
  induction ts with
  | nil => rfl
  | cons t ts ih =>
    unfold costAll
    rw [ih]
    rfl

theorem costQuery_eq_sum (q : Query Phrase) :
    costQuery q = (q.parts.map (costAt .clause)).sum := by
  obtain ⟨distinct, columns, sources, filter, groups, groupFilter, order, limit, offset⟩ := q
  have hoption (t? : Option Phrase) : costOption t? = (t?.toList.map (costAt .clause)).sum := by
    cases t? <;> rfl
  simp only [costQuery, Query.parts, costAll_eq_sum, hoption, List.map_append, List.sum_append]

theorem brackets_self (p : Precedence) : brackets p p = 0 := by
  rw [brackets, if_neg (Precedence.not_lt_of_le (Precedence.le_refl p))]

theorem brackets_le_one (own p : Precedence) : brackets own p ≤ 1 := by
  unfold brackets
  split <;> decide

theorem brackets_mono (own : Precedence) {p q : Precedence} (h : p ≤ q) :
    brackets own p ≤ brackets own q := by
  unfold brackets
  split
  . next hlt => rw [if_pos (Precedence.lt_of_lt_of_le hlt h)]
  . apply Nat.zero_le

theorem costAt_mono (t : Phrase) {p q : Precedence} (h : p ≤ q) : t.costAt p ≤ t.costAt q :=
  Nat.add_le_add_left (brackets_mono t.precedence h) t.cost

/-! The operators. -/

theorem prefixedPrecedence_symbol (op : UnaryOp) :
    prefixedPrecedence op.symbol = op.kind.precedence := by
  cases op <;> rfl

theorem infixedPrecedence_symbol (op : Infix) : infixedPrecedence op.symbol = op.precedence := by
  cases op with
  | operator op => cases op <;> rfl
  | setOperation op => cases op <;> rfl

theorem chainedPrecedence_keyword (op : ChainOp) :
    chainedPrecedence op.keyword = op.kind.precedence := by
  cases op <;> rfl

theorem costAt_prefixed (op : UnaryOp) (t : Phrase) (p : Precedence) :
    (prefixed op.symbol t).costAt p
      =
    t.costAt op.kind.precedence + brackets op.kind.precedence p := by
  simp only [costAt, cost, precedence, prefixedPrecedence_symbol]

theorem costAt_infixed (op : Infix) (left right : Phrase) (p : Precedence) :
    (infixed op.symbol left right).costAt p
      =
    left.costAt (Handler.operandDemands op.precedence).1 + weight op.symbol
      + right.costAt (Handler.operandDemands op.precedence).2 + brackets op.precedence p := by
  simp only [costAt, cost, precedence, infixedPrecedence_symbol]

theorem costAt_call (s : String) (args : List Phrase) (p : Precedence) :
    (call s args).costAt p
      =
    weight s + 1 + (args.map (costAt .clause)).sum + brackets .tightest p := by
  simp only [costAt, cost, precedence, costAll_eq_sum]

theorem costAt_select (q : Query Phrase) (p : Precedence) :
    (select q).costAt p = (q.parts.map (costAt .clause)).sum + brackets .query p := by
  simp only [costAt, cost, precedence, costQuery_eq_sum]

/-! Chains in chains cost what the spliced chain costs. -/

theorem costAll_operands (op : ChainOp) (t : Phrase) :
    costAll op.kind.precedence (t.operands op.keyword) = t.costAt op.kind.precedence := by
  have hone : costAll op.kind.precedence [t] = t.costAt op.kind.precedence := by
    simp [costAll_eq_sum]
  cases t with
  | chained other ts =>
    by_cases heq : other = op.keyword
    . simp only [operands, if_pos heq]
      simp only [costAt, cost, precedence, heq, chainedPrecedence_keyword, brackets_self]
      rfl
    . simp only [operands, if_neg heq]
      exact hone
  | _ => exact hone

theorem costAll_operandsAll (op : ChainOp) (ts : List Phrase) :
    costAll op.kind.precedence (operandsAll op.keyword ts)
      =
    (ts.map fun t => t.canonical.costAt op.kind.precedence).sum := by
  induction ts with
  | nil => rfl
  | cons t ts ih =>
    have hoperands := costAll_operands op t.canonical
    rw [costAll_eq_sum] at hoperands ih ⊢
    unfold operandsAll
    rw [List.map_append, List.sum_append, hoperands, ih]
    rfl

theorem cost_chained (op : ChainOp) (ts : List Phrase) :
    (chained op.keyword ts).cost = costAll op.kind.precedence ts := by
  rw [cost, chainedPrecedence_keyword]

theorem costAt_ofOperands (op : ChainOp) (ts : List Phrase) :
    (ofOperands op.keyword ts).costAt op.kind.precedence = costAll op.kind.precedence ts := by
  have hchained : (chained op.keyword ts).costAt op.kind.precedence
      = costAll op.kind.precedence ts := by
    rw [costAt, cost_chained, precedence, chainedPrecedence_keyword, brackets_self]
    rfl
  match ts with
  | [] => exact hchained
  | [t] => simp [ofOperands, costAll_eq_sum]
  | _ :: _ :: _ => exact hchained

end Phrase

/-! No tokens weigh less than what they read as costs. -/

theorem Infix.operandDemands_le (op : Infix) {p p' : Precedence} (h : op.precedence.AllowsLeft p)
    (h' : op.precedence < p') :
    (Handler.operandDemands op.precedence).1 ≤ p ∧
      (Handler.operandDemands op.precedence).2 ≤ p' := by
  have hright : op.precedence.associativity ≠ .right := by
    cases op with
    | operator op => cases op <;> decide
    | setOperation op => cases op <;> decide
  have hgreatest := Precedence.ne_greatest_of_associativity hright
  have hnext := Precedence.nextTighter_le hgreatest h'
  unfold Precedence.AllowsLeft at h
  unfold Handler.operandDemands
  cases hassociativity : op.precedence.associativity with
  | left =>
    rw [hassociativity] at h
    exact ⟨h, hnext⟩
  | none =>
    rw [hassociativity] at h
    exact ⟨Precedence.nextTighter_le hgreatest h, hnext⟩
  | right => contradiction

/--
An operator is understood as itself, or as one of identity. In that case it binds less tightly than
it is written, which may cost a bracket, but no equals sign.
-/
theorem Infix.exists_identity (op : Infix) (right : Phrase) :
    ∃ op' : Infix, Phrase.identitySymbol op.symbol right = op'.symbol ∧
      weight op'.symbol + Phrase.brackets op'.precedence op.precedence ≤ weight op.symbol ∧
      op'.precedence ≤ op.precedence ∧
      ∀ p, op.precedence.AllowsLeft p → op'.precedence.AllowsLeft p := by
  have hsame (h : Phrase.identitySymbol op.symbol right = op.symbol) :
      ∃ op' : Infix, Phrase.identitySymbol op.symbol right = op'.symbol ∧
        weight op'.symbol + Phrase.brackets op'.precedence op.precedence ≤ weight op.symbol ∧
        op'.precedence ≤ op.precedence ∧
        ∀ p, op.precedence.AllowsLeft p → op'.precedence.AllowsLeft p := by
    refine ⟨op, h, ?_, Precedence.le_refl _, fun p hp => hp⟩
    rw [Phrase.brackets_self]
    apply Nat.le_refl
  have hidentity (op' : Infix) (hlt : op'.precedence < op.precedence)
      (hnone : op'.precedence.associativity = .none) (p : Precedence)
      (hp : op.precedence.AllowsLeft p) : op'.precedence.AllowsLeft p := by
    unfold Precedence.AllowsLeft
    rw [hnone]
    exact Precedence.lt_of_lt_of_le hlt hp.le
  cases right with
  | null =>
    cases op with
    | setOperation op => cases op <;> exact hsame rfl
    | operator op =>
      cases op with
      | equal => exact ⟨.operator .is, rfl, by decide, by decide, hidentity _ (by decide) rfl⟩
      | notEqual =>
        exact ⟨.operator .isNot, rfl, by decide, by decide, hidentity _ (by decide) rfl⟩
      | _ => exact hsame rfl
  | _ => exact hsame rfl

namespace Token

theorem weightAll_intercalate (separator : List Token) (toks : List (List Token)) :
    (toks.map weightAll).sum ≤ weightAll (separator.intercalate toks) := by
  induction toks with
  | nil => apply Nat.zero_le
  | cons tok toks ih =>
    cases toks with
    | nil => simp
    | cons tok' toks =>
      rw [List.intercalate_cons_cons]
      simp only [List.map_cons, List.sum_cons, weightAll_append] at *
      omega

theorem weightAll_clauseTokens (keyword : List Mark) (toks : List (List Token)) :
    (toks.map weightAll).sum ≤ weightAll (clauseTokens keyword toks) := by
  have hlist := weightAll_intercalate [.mark .comma] toks
  unfold clauseTokens listTokens
  cases toks with
  | nil => apply Nat.zero_le
  | cons tok toks =>
    rw [if_neg (by simp), weightAll_append]
    omega

theorem weightAll_queryTokens (q : Query (List Token)) :
    (q.parts.map weightAll).sum ≤ weightAll q.tokens := by
  have hcolumns : (q.columns.map weightAll).sum
      ≤ weightAll (if q.columns.isEmpty then [Token.mark .star] else listTokens q.columns) := by
    have hlist := weightAll_intercalate [.mark .comma] q.columns
    cases hnil : q.columns with
    | nil => apply Nat.zero_le
    | cons column columns =>
      rw [hnil] at hlist
      exact hlist
  have hsources := weightAll_clauseTokens [.from] q.sources
  have hfilter := weightAll_clauseTokens [.where] q.filter.toList
  have hgroups := weightAll_clauseTokens [.group, .by] q.groups
  have hgroupFilter := weightAll_clauseTokens [.having] q.groupFilter.toList
  have horder := weightAll_clauseTokens [.order, .by] q.order
  unfold Query.tokens Query.parts
  simp only [List.map_append, List.sum_append, weightAll_append]
  omega

end Token

namespace Reads

open Phrase

theorem sum_costAt_le {items : List Reading} {p : Precedence}
    (hitems : ∀ item ∈ items, p ≤ item.precedence)
    (h : ∀ item ∈ items, item.phrase.identified.canonical.costAt item.precedence
      ≤ Token.weightAll item.tokens) :
    (items.map fun item => item.phrase.identified.canonical.costAt p).sum
      ≤ ((items.map (·.tokens)).map Token.weightAll).sum := by
  rw [List.map_map]
  apply List.sum_le_sum
  intro item hmem
  exact Nat.le_trans (costAt_mono _ (hitems item hmem)) (h item hmem)

theorem costAt_le {p : Precedence} {toks : List Token} {t : Phrase} (h : Reads p toks t) :
    t.identified.canonical.costAt p ≤ Token.weightAll toks := by
  induction h with
  | placeholder | null | name | qualified =>
    simp [identified, canonical, costAt, cost, precedence, brackets_self, Token.weight]
  | @bracketed p toks t hp h ih =>
    have hbrackets := brackets_le_one t.identified.canonical.precedence .tightest
    have hopening : (Token.mark .opening).weight = 1 := by decide
    simp only [Token.weightAll_append, Token.weightAll_cons, hopening]
    unfold costAt at *
    omega
  | @prefixed op p toks t hp h ih =>
    have hoperand := costAt_mono t.identified.canonical hp
    change (Phrase.prefixed op.symbol t.identified.canonical).costAt _ ≤ _
    rw [costAt_prefixed, brackets_self, Token.weightAll_append]
    omega
  | @infixed op p p' toks toks' t t' hleft hright h h' ih ih' =>
    obtain ⟨op', hsymbol, hweight, hle, hallows⟩ := op.exists_identity t'
    obtain ⟨hdemand, hdemand'⟩ :=
      op'.operandDemands_le (hallows p hleft) (Precedence.lt_of_le_of_lt hle hright)
    have hcost := costAt_mono t.identified.canonical hdemand
    have hcost' := costAt_mono t'.identified.canonical hdemand'
    change (Phrase.infixed (identitySymbol op.symbol t') t.identified.canonical
      t'.identified.canonical).costAt _ ≤ _
    rw [hsymbol, costAt_infixed, Token.weightAll_append, Token.weightAll_append,
      op.weightAll_tokens]
    omega
  | @chained op items htwo hitems h ih =>
    have hsum := sum_costAt_le (fun item hmem => Precedence.le_of_lt (hitems item hmem)) ih
    have hcanonical : (Phrase.chained op.keyword (items.map (·.phrase))).identified.canonical
        = .ofOperands op.keyword
          (operandsAll op.keyword ((items.map (·.phrase)).map identified)) := by
      rw [identified, identifiedAll_eq_map, canonical]
    rw [hcanonical, costAt_ofOperands, costAll_operandsAll, List.map_map, List.map_map]
    exact Nat.le_trans hsum (Token.weightAll_intercalate _ _)
  | @call s args hargs h ih =>
    have hsum := sum_costAt_le (fun arg hmem => Precedence.query_lt_iff.1 (hargs arg hmem)) ih
    have hlist := Token.weightAll_intercalate [.mark .comma] (args.map (·.tokens))
    have hname : (Token.name s).weight = weight s := rfl
    have hopening : (Token.mark .opening).weight = 1 := by decide
    have hcanonical : (Phrase.call s (args.map (·.phrase))).identified.canonical
        = .call s (args.map fun arg => arg.phrase.identified.canonical) := by
      rw [identified, identifiedAll_eq_map, canonical, canonicalAll_eq_map]
      simp only [List.map_map, Function.comp_def]
    rw [hcanonical, costAt_call, brackets_self, List.map_map]
    simp only [Token.weightAll_append, Token.weightAll_cons, hname, hopening]
    simp only [Function.comp_def, listTokens] at *
    omega
  | @select q hparts h ih =>
    have hsum := sum_costAt_le (fun part hmem => Precedence.query_lt_iff.1 (hparts part hmem)) ih
    have htokens := Token.weightAll_queryTokens (q.map (·.tokens))
    have hcanonical : (Phrase.select (q.map (·.phrase))).identified.canonical
        = .select (q.map fun part => part.phrase.identified.canonical) := by
      rw [identified, identifiedQuery_eq_map, canonical, Node.canonicalQuery_eq_map]
      simp only [Query.map_map]
    rw [hcanonical, costAt_select, brackets_self, Query.parts_map, List.map_map]
    rw [Query.parts_map] at htokens
    exact Nat.le_trans hsum htokens

end Reads

end SqlExpr
