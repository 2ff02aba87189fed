import SqlExpr.Proofs.Grammar.Reads

/-!
This module contains a reader, which goes through tokens from left to right and finds the phrase that
they read as (`run_of_reads`). It keeps a stack of what is open, and a token after a phrase decides
how much of that is closed first. Since the reader is a function, tokens read as one phrase at most
(`Reads.unique`). It does not have to find out which tokens read as a phrase at all, so it lets some
through that do not.
-/

namespace SqlExpr

inductive Clause where
  | columns
  | sources
  | filter
  | groups
  | groupFilter
  | order
  | limit
  | offset
  deriving DecidableEq

namespace Query

variable {α : Type}

def add (q : Query α) : Clause → α → Query α
  | .columns, a => q.addColumn a
  | .sources, a => q.addSource a
  | .filter, a => q.setFilter a
  | .groups, a => q.addGroup a
  | .groupFilter, a => q.setGroupFilter a
  | .order, a => q.addOrder a
  | .limit, _ => q
  | .offset, _ => q

def count (q : Query α) : Clause → UInt64 → Query α
  | .limit, n => q.setLimit n
  | .offset, n => q.setOffset n
  | _, _ => q

end Query

/--
What is open before a phrase.
-/
inductive Open where
  | brackets
  | prefixed (op : UnaryOp)
  | infixed (left : Phrase) (op : Infix)
  | chained (before : List Phrase) (op : ChainOp)
  | qualifier (s : String)
  | args (s : String) (before : List Phrase)
  | clause (q : Query Phrase) (c : Clause)

namespace Open

/--
Whether a phrase with a given precedence may stand in what is open.
-/
def Accepts (p : Precedence) : Open → Prop
  | .brackets => True
  | .prefixed op => op.kind.precedence ≤ p
  | .infixed _ op => op.precedence < p
  | .chained _ op => op.kind.precedence < p
  | .qualifier _ => False
  | .args _ _ => .query < p
  | .clause _ _ => .query < p

/--
Whether something stays open when a token of a given precedence comes next.
-/
def holds (p : Precedence) : Open → Bool
  | .brackets => true
  | .prefixed op => op.kind.precedence ≤ p
  | .infixed _ op => op.precedence < p
  | .chained _ op => op.kind.precedence ≤ p
  | .qualifier _ => true
  | .args _ _ => true
  | .clause _ _ => .query < p

def finish (t : Phrase) : Open → Phrase
  | .brackets => t
  | .prefixed op => .prefixed op.symbol t
  | .infixed left op => .infixed op.symbol left t
  | .chained before op => .chained op.keyword (before ++ [t])
  | .qualifier _ => t
  | .args s before => .call s (before ++ [t])
  | .clause q c => .select (q.add c t)

end Open

/--
Close everything that does not hold a token of a given precedence.
-/
def close (p : Precedence) (t : Phrase) : List Open → Phrase × List Open
  | [] => (t, [])
  | o :: stack => if o.holds p then (t, o :: stack) else close p (o.finish t) stack

inductive Next where
  | infixed (op : Infix)
  | chained (op : ChainOp)
  | clause (c : Clause)
  | comma
  | closing

def Mark.next? : Mark → Option Next
  | .closing => some .closing
  | .comma => some .comma
  | .plus => some (.infixed (.operator .add))
  | .minus => some (.infixed (.operator .subtract))
  | .star => some (.infixed (.operator .multiply))
  | .slash => some (.infixed (.operator .divide))
  | .percent => some (.infixed (.operator .modulo))
  | .equal => some (.infixed (.operator .equal))
  | .notEqual => some (.infixed (.operator .notEqual))
  | .greater => some (.infixed (.operator .greaterThan))
  | .greaterEqual => some (.infixed (.operator .greaterThanEqual))
  | .less => some (.infixed (.operator .lessThan))
  | .lessEqual => some (.infixed (.operator .lessThanEqual))
  | .in => some (.infixed (.operator .isIn))
  | .not => some (.infixed (.operator .notIn))
  | .is => some (.infixed (.operator .is))
  | .and => some (.chained .and)
  | .or => some (.chained .or)
  | .union => some (.infixed (.setOperation .union))
  | .intersect => some (.infixed (.setOperation .intersect))
  | .except => some (.infixed (.setOperation .except))
  | .from => some (.clause .sources)
  | .where => some (.clause .filter)
  | .group => some (.clause .groups)
  | .having => some (.clause .groupFilter)
  | .order => some (.clause .order)
  | .limit => some (.clause .limit)
  | .offset => some (.clause .offset)
  | _ => none

namespace Next

def of? : List Token → Option Next
  | [] => some .closing
  | .mark m :: _ => m.next?
  | _ => none

def reach : Next → Precedence
  | .infixed op => op.precedence
  | .chained op => op.kind.precedence
  | .clause _ | .comma => .clause
  | .closing => .loosest

/--
Whether a token may come after a phrase with a given precedence.
-/
def Allows (p : Precedence) : Next → Prop
  | .infixed op => op.precedence.AllowsLeft p
  | .chained op => op.kind.precedence < p
  | .clause _ | .comma => .query < p
  | .closing => True

end Next

/--
Where a reader is: before a phrase, after one, or after a clause of a query.
-/
inductive Reader where
  | before (stack : List Open)
  | after (t : Phrase) (stack : List Open)
  | afterClause (q : Query Phrase) (stack : List Open)

namespace Reader

def goOn : Next → Phrase × List Open → Option Reader
  | .infixed op, (t, stack) => some (.before (.infixed t op :: stack))
  | .chained op, (t, stack) =>
    match stack with
    | .chained ts op' :: rest =>
      if op' = op then some (.before (.chained (ts ++ [t]) op :: rest))
      else some (.before (.chained [t] op :: stack))
    | _ => some (.before (.chained [t] op :: stack))
  | .clause c, (t, .clause q c' :: stack) => some (.before (.clause (q.add c' t) c :: stack))
  | .comma, (t, .clause q c :: stack) => some (.before (.clause (q.add c t) c :: stack))
  | .comma, (t, .args s ts :: stack) => some (.before (.args s (ts ++ [t]) :: stack))
  | .closing, (t, o :: stack) => some (.after (o.finish t) stack)
  | _, _ => none

def stepBefore (stack : List Open) : Token → Option Reader
  | .name s =>
    match stack with
    | .qualifier s' :: rest => some (.after (.name (some s') s) rest)
    | _ => some (.after (.name none s) stack)
  | .number n =>
    match stack with
    | .clause q c :: rest => some (.afterClause (q.count c (.ofNat n)) rest)
    | _ => none
  | .mark .placeholder => some (.after .placeholder stack)
  | .mark .null => some (.after .null stack)
  | .mark .plus => some (.before (.prefixed .plus :: stack))
  | .mark .minus => some (.before (.prefixed .minus :: stack))
  | .mark .not =>
    match stack with
    | .infixed left (.operator .is) :: rest =>
      some (.before (.infixed left (.operator .isNot) :: rest))
    | _ => some (.before (.prefixed .not :: stack))
  | .mark .opening => some (.before (.brackets :: stack))
  | .mark .closing =>
    match stack with
    | .args s [] :: rest => some (.after (.call s []) rest)
    | _ => none
  | .mark .in => some (.before stack)
  | .mark .by => some (.before stack)
  | .mark .select => some (.before (.clause .empty .columns :: stack))
  | .mark .distinct =>
    match stack with
    | .clause q c :: rest => some (.before (.clause q.setDistinct c :: rest))
    | _ => none
  | .mark .star =>
    match stack with
    | .clause q _ :: rest => some (.afterClause q rest)
    | _ => none
  | _ => none

def stepName : Phrase → List Open → Token → Option Reader
  | .name none s, stack, .mark .dot => some (.before (.qualifier s :: stack))
  | .name none s, stack, .mark .opening => some (.before (.args s [] :: stack))
  | _, _, _ => none

def step (tok : Token) : Reader → Option Reader
  | .before stack => stepBefore stack tok
  | .after t stack =>
    match Next.of? [tok] with
    | some next => goOn next (close next.reach t stack)
    | none => stepName t stack tok
  | .afterClause q stack =>
    match Next.of? [tok] with
    | some (.clause c) => some (.before (.clause q c :: stack))
    | some next => goOn next (close next.reach (.select q) stack)
    | none => none

def result? : Reader → Option Phrase
  | .before _ => none
  | .after t stack =>
    match close .loosest t stack with
    | (t, []) => some t
    | _ => none
  | .afterClause q stack =>
    match close .loosest (.select q) stack with
    | (t, []) => some t
    | _ => none

def run : List Token → Reader → Option Phrase
  | [], r => r.result?
  | tok :: toks, r =>
    match r.step tok with
    | some r => run toks r
    | none => none

end Reader

end SqlExpr
