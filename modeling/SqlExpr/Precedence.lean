/-!
This module contains operator precedences. A `Precedence` is a rank together with an associativity.
Precedences are totally ordered, by rank first and by associativity second, and brackets are placed
by comparing them: an operand is bracketed when its own precedence is below the demanded one.

The ranks follow the usual operator table of SQL, from member access, which binds tightest, down to
whole statements. Queries rank below every operator.
-/

namespace SqlExpr

/--
How a chain of operators of one rank groups. The order of the constructors is their order as the
second component of a precedence.
-/
inductive Associativity where
  | none
  | left
  | right
  deriving DecidableEq, Repr, Inhabited

namespace Associativity

def level : Associativity → Nat
  | .none => 0
  | .left => 1
  | .right => 2

theorem level_lt (a : Associativity) : a.level < 3 := by
  cases a <;> decide

theorem level_inj {a b : Associativity} : a.level = b.level ↔ a = b := by
  cases a <;> cases b <;> decide

def name : Associativity → String
  | .none => "none"
  | .left => "left"
  | .right => "right"

instance : LT Associativity := ⟨fun a b => a.level < b.level⟩

instance (a b : Associativity) : Decidable (a < b) :=
  inferInstanceAs (Decidable (a.level < b.level))

end Associativity

/--
How tightly an expression binds: a rank, larger for tighter, and an associativity.
-/
structure Precedence where
  rank : Int32
  associativity : Associativity
  deriving DecidableEq

/-! The ranks of the operator table. -/

namespace Rank

def member : Int32 := 1400

def cast : Int32 := 1300

def subscript : Int32 := 1200

def unary : Int32 := 1100

def exponent : Int32 := 1000

def multiplicative : Int32 := 900

def additive : Int32 := 800

/--
Every operator that the table does not list.
-/
def other : Int32 := 700

def containment : Int32 := 600

def comparison : Int32 := 500

/--
The identity tests `IS` and `IS NOT`.
-/
def identity : Int32 := 400

def negation : Int32 := 300

def conjunction : Int32 := 200

def disjunction : Int32 := 100

def query : Int32 := 30

def intersection : Int32 := 20

def union : Int32 := 10

def statement : Int32 := 0

end Rank

namespace Precedence

def nonassoc (rank : Int32) : Precedence := ⟨rank, .none⟩

def leftAssoc (rank : Int32) : Precedence := ⟨rank, .left⟩

def rightAssoc (rank : Int32) : Precedence := ⟨rank, .right⟩

/--
What an expression binds with if nothing declares its precedence: it is never bracketed by a
built-in operator.
-/
def tightest : Precedence := nonassoc Int32.maxValue

/--
What is demanded of a whole statement.
-/
def loosest : Precedence := nonassoc Rank.statement

/--
What is demanded in a position that separators already delimit: queries are bracketed there, and
nothing else of the operator table is.
-/
def clause : Precedence := leftAssoc Rank.query

instance : Inhabited Precedence := ⟨tightest⟩

instance : LT Precedence :=
  ⟨fun p q => p.rank < q.rank ∨ (p.rank = q.rank ∧ p.associativity < q.associativity)⟩

instance : LE Precedence := ⟨fun p q => p < q ∨ p = q⟩

instance (p q : Precedence) : Decidable (p < q) :=
  inferInstanceAs (Decidable (p.rank < q.rank ∨ (p.rank = q.rank ∧ _)))

instance (p q : Precedence) : Decidable (p ≤ q) :=
  inferInstanceAs (Decidable (p < q ∨ p = q))

instance : Ord Precedence := ⟨fun p q => if p < q then .lt else if p = q then .eq else .gt⟩

/--
The rank that is tighter by one. The largest rank has no successor and stays.
-/
def nextRank (rank : Int32) : Int32 :=
  if rank = Int32.maxValue then rank else rank + 1

/--
The least precedence that is tighter than `p`. Demanding it of an operand brackets an operand that
binds just as `p` does.
-/
def nextTighter (p : Precedence) : Precedence :=
  match p.associativity with
  | .none => leftAssoc p.rank
  | .left => rightAssoc p.rank
  | .right => nonassoc (nextRank p.rank)

def render (p : Precedence) : String :=
  Int.repr p.rank.toInt ++ "/" ++ p.associativity.name

/--
The place of a precedence in the order, as one integer.
-/
def key (p : Precedence) : Int :=
  3 * p.rank.toInt + p.associativity.level

theorem key_inj {p q : Precedence} : p.key = q.key ↔ p = q := by
  obtain ⟨r, a⟩ := p
  obtain ⟨s, b⟩ := q
  have ha := a.level_lt
  have hb := b.level_lt
  simp only [key, mk.injEq, ← Int32.toInt_inj, ← Associativity.level_inj]
  omega

theorem lt_iff_key_lt {p q : Precedence} : p < q ↔ p.key < q.key := by
  obtain ⟨r, a⟩ := p
  obtain ⟨s, b⟩ := q
  have ha := a.level_lt
  have hb := b.level_lt
  change (r < s ∨ (r = s ∧ a.level < b.level)) ↔ _
  simp only [key, Int32.lt_iff_toInt_lt, ← Int32.toInt_inj]
  omega

theorem le_iff_key_le {p q : Precedence} : p ≤ q ↔ p.key ≤ q.key := by
  change (p < q ∨ p = q) ↔ _
  rw [lt_iff_key_lt, ← key_inj]
  omega

end Precedence

end SqlExpr
