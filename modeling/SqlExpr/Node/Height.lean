import SqlExpr.Node

/-!
This module contains the height of an expression, which bounds how deep its compilation nests.
-/

namespace SqlExpr.Node

mutual

/--
The number of nodes above one another in an expression, without the top one.
-/
def height : Node → Nat
  | .literal _ => 0
  | .unary _ _ operand => operand.height + 1
  | .binary _ _ left right => Nat.max left.height right.height + 1
  | .chain _ _ first rest => Nat.max first.height (heightAll rest) + 1
  | .call _ _ args => heightAll args + 1
  | .table _ => 0
  | .column _ _ => 0
  | .select query => heightQuery query + 1
  | .setOperation _ left right => Nat.max left.height right.height + 1
  | .foreign _ _ _ children => heightAll children + 1

def heightAll : List Node → Nat
  | [] => 0
  | node :: nodes => Nat.max node.height (heightAll nodes)

def heightOption : Option Node → Nat
  | none => 0
  | some node => node.height

def heightQuery : Query Node → Nat
  | ⟨_, columns, sources, filter, groups, groupFilter, order, _, _⟩ =>
    Nat.max (Nat.max (Nat.max (heightAll columns) (heightAll sources)) (heightOption filter))
      (Nat.max (Nat.max (heightAll groups) (heightOption groupFilter)) (heightAll order))

end

theorem height_le_heightAll {node : Node} {nodes : List Node} (h : node ∈ nodes) :
    node.height ≤ heightAll nodes := by
  induction nodes with
  | nil => cases h
  | cons other nodes ih =>
    simp only [heightAll]
    cases h with
    | head => exact Nat.le_max_left ..
    | tail _ h => exact Nat.le_trans (ih h) (Nat.le_max_right ..)

theorem heightAll_le {nodes : List Node} {n : Nat} :
    heightAll nodes ≤ n ↔ ∀ node ∈ nodes, node.height ≤ n := by
  induction nodes with
  | nil => simp [heightAll]
  | cons other nodes ih =>
    rw [heightAll, Nat.max_le, ih]
    simp

theorem heightOption_le {node? : Option Node} {n : Nat} :
    heightOption node? ≤ n ↔ ∀ node ∈ node?, node.height ≤ n := by
  cases node? <;> simp [heightOption]

theorem heightQuery_le {q : Query Node} {n : Nat} :
    heightQuery q ≤ n
      ↔
    (∀ node ∈ q.columns, node.height ≤ n) ∧ (∀ node ∈ q.sources, node.height ≤ n) ∧
      (∀ node ∈ q.filter, node.height ≤ n) ∧ (∀ node ∈ q.groups, node.height ≤ n) ∧
      (∀ node ∈ q.groupFilter, node.height ≤ n) ∧ (∀ node ∈ q.order, node.height ≤ n) := by
  obtain ⟨distinct, columns, sources, filter, groups, groupFilter, order, limit, offset⟩ := q
  simp only [heightQuery, Nat.max_le, heightAll_le, heightOption_le]
  grind

theorem height_le_heightQuery {q : Query Node} {node : Node} (h : node ∈ q.parts) :
    node.height ≤ heightQuery q :=
  Query.forall_mem_parts.2 (heightQuery_le.1 (Nat.le_refl (heightQuery q))) node h

theorem height_lt_of_mem_parts {node part : Node} (h : part ∈ node.parts) :
    part.height < node.height := by
  cases node with
  | literal | table | column => cases h
  | select query =>
    have := height_le_heightQuery h
    simp only [height]
    omega
  | call kind name nodes | foreign kind precedence value? nodes =>
    have : part.height ≤ heightAll nodes := height_le_heightAll h
    simp only [height]
    omega
  | chain kind keyword first rest =>
    have : part.height ≤ heightAll (first :: rest) := height_le_heightAll h
    simp only [height, heightAll] at *
    omega
  | unary kind symbol operand =>
    rw [List.mem_singleton.1 h]
    exact Nat.lt_succ_self operand.height
  | binary kind symbol left right | setOperation op left right =>
    have : part.height ≤ heightAll [left, right] := height_le_heightAll h
    simp only [height, heightAll] at *
    grind

end SqlExpr.Node
