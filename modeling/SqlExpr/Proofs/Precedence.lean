import SqlExpr.Compiler.Run
import SqlExpr.Handler.Operator

/-!
This module contains the order of precedences: it is total, and what is demanded of an operand on the
side that an operator does not associate to is the least precedence above its own.
-/

namespace SqlExpr

namespace Precedence

variable {p q r : Precedence}

theorem le_trans (h : p ≤ q) (h' : q ≤ r) : p ≤ r := by
  rw [le_iff_key_le] at *
  omega

theorem lt_of_le_of_lt (h : p ≤ q) (h' : q < r) : p < r := by
  rw [le_iff_key_le] at h
  rw [lt_iff_key_lt] at *
  omega

theorem lt_of_lt_of_le (h : p < q) (h' : q ≤ r) : p < r := by
  rw [le_iff_key_le] at h'
  rw [lt_iff_key_lt] at *
  omega

theorem lt_of_le_of_ne (h : p ≤ q) (hne : p ≠ q) : p < q := h.resolve_right hne

theorem le_of_lt (h : p < q) : p ≤ q := .inl h

theorem not_lt_of_le (h : p ≤ q) : ¬ q < p := by
  rw [le_iff_key_le] at h
  rw [lt_iff_key_lt]
  omega

theorem not_le : ¬ p ≤ q ↔ q < p := by
  rw [le_iff_key_le, lt_iff_key_lt]
  omega

theorem not_lt : ¬ p < q ↔ q ≤ p := by
  rw [le_iff_key_le, lt_iff_key_lt]
  omega

theorem le_refl (p : Precedence) : p ≤ p := .inr rfl

/--
The precedence above all others.
-/
def greatest : Precedence := rightAssoc Int32.maxValue

theorem toInt_add_one {rank : Int32} (h : rank ≠ Int32.maxValue) :
    (rank + 1).toInt = rank.toInt + 1 := by
  have hmax : Int32.maxValue.toInt = 2147483647 := by decide
  have hmin := rank.le_toInt
  have hle := rank.toInt_le
  rw [Ne, ← Int32.toInt_inj] at h
  rw [Int32.toInt_add, Int32.toInt_one, Int.bmod_eq_of_le]
  all_goals omega

theorem key_nextTighter (h : p ≠ greatest) : p.nextTighter.key = p.key + 1 := by
  obtain ⟨rank, associativity⟩ := p
  cases associativity with
  | none | left =>
    simp only [key, nextTighter, leftAssoc, rightAssoc, Associativity.level]
    omega
  | right =>
    have hrank : rank ≠ Int32.maxValue := fun heq => h (heq ▸ rfl)
    simp only [key, nextTighter, nonassoc, nextRank, if_neg hrank, toInt_add_one hrank,
      Associativity.level]
    omega

/--
Below the next tighter precedence is what binds no more tightly. The greatest precedence has none
above it, and the next tighter one is below it, so there the operands of its own rank are left out.
-/
theorem lt_nextTighter_iff :
    q < p.nextTighter ↔ q ≤ p ∧ (p = greatest → q.rank ≠ Int32.maxValue) := by
  rw [lt_iff_key_lt, le_iff_key_le]
  by_cases hp : p = greatest
  . have hnext : greatest.nextTighter.key = 6442450941 := by decide
    have hgreatest : greatest.key = 6442450943 := by decide
    have hmax : Int32.maxValue.toInt = 2147483647 := by decide
    have hle := q.rank.toInt_le
    have hlevel := q.associativity.level_lt
    have hkey : q.key = 3 * q.rank.toInt + q.associativity.level := rfl
    simp only [hp, hnext, hgreatest, true_implies, Ne, ← Int32.toInt_inj]
    omega
  . rw [key_nextTighter hp]
    simp only [hp, false_implies, and_true]
    omega

theorem ne_greatest_of_associativity (h : p.associativity ≠ .right) : p ≠ greatest := by
  intro heq
  rw [heq] at h
  contradiction

theorem ne_greatest_of_rank_lt (h : p.rank < Int32.maxValue) : p ≠ greatest := by
  intro heq
  rw [heq] at h
  exact absurd h (by decide)

theorem lt_nextTighter (h : p ≠ greatest) : p < p.nextTighter := by
  rw [lt_iff_key_lt, key_nextTighter h]
  omega

theorem nextTighter_le (hp : p ≠ greatest) (h : p < q) : p.nextTighter ≤ q := by
  rw [lt_iff_key_lt] at h
  rw [le_iff_key_le, key_nextTighter hp]
  omega

theorem le_antisymm (h : p ≤ q) (h' : q ≤ p) : p = q := by
  rw [le_iff_key_le] at *
  rw [← key_inj]
  omega

/-! What operators demand of their operands. -/

open Handler

theorem operandDemands_left (h : p.associativity ≠ .left) :
    (operandDemands p).1 = p.nextTighter := by
  unfold operandDemands
  split
  . contradiction
  . rfl
  . rfl

theorem operandDemands_right (h : p.associativity ≠ .right) :
    (operandDemands p).2 = p.nextTighter := by
  unfold operandDemands
  split
  . rfl
  . contradiction
  . rfl

theorem le_operandDemands (h : p.rank < Int32.maxValue) :
    p ≤ (operandDemands p).1 ∧ p ≤ (operandDemands p).2 := by
  have hnext := le_of_lt (lt_nextTighter (ne_greatest_of_rank_lt h))
  unfold operandDemands
  split
  . exact ⟨le_refl p, hnext⟩
  . exact ⟨hnext, le_refl p⟩
  . exact ⟨hnext, hnext⟩

theorem left_of_operandDemands_le (h : p.rank < Int32.maxValue) (hle : (operandDemands p).1 ≤ p) :
    p.associativity = .left := by
  apply Decidable.byContradiction
  intro hassociativity
  rw [operandDemands_left hassociativity] at hle
  exact not_lt_of_le hle (lt_nextTighter (ne_greatest_of_rank_lt h))

theorem right_of_operandDemands_le (h : p.rank < Int32.maxValue) (hle : (operandDemands p).2 ≤ p) :
    p.associativity = .right := by
  apply Decidable.byContradiction
  intro hassociativity
  rw [operandDemands_right hassociativity] at hle
  exact not_lt_of_le hle (lt_nextTighter (ne_greatest_of_rank_lt h))

end Precedence

theorem bracket_self (p : Precedence) (text : String) : Compiler.bracket p p text = text := by
  rw [Compiler.bracket, if_neg (Precedence.not_lt_of_le (Precedence.le_refl p))]

end SqlExpr
