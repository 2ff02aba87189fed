/-!
This module contains sets of characters that are given by a table of code point ranges.
-/

namespace SqlExpr

/--
A set of characters: the code points from the first to the second number of a pair, for each pair.
The pairs of a table ascend and do not overlap.
-/
abbrev CharRanges := List (Nat × Nat)

namespace CharRanges

/--
Whether a character lies in one of the ranges. The search ends at the first range that starts behind
the character.
-/
def contains : CharRanges → Char → Bool
  | [], _ => false
  | (first, last) :: rest, c =>
    if c.toNat < first then false else if c.toNat ≤ last then true else contains rest c

def Ascending : CharRanges → Prop
  | (first, last) :: (first', last') :: rest =>
    first ≤ last ∧ last < first' ∧ Ascending ((first', last') :: rest)
  | [(first, last)] => first ≤ last
  | [] => True

instance decidableAscending : (ranges : CharRanges) → Decidable ranges.Ascending
  | (_, _) :: (first', last') :: rest =>
    have := decidableAscending ((first', last') :: rest)
    inferInstanceAs (Decidable (_ ∧ _ ∧ _))
  | [(_, _)] => inferInstanceAs (Decidable (_ ≤ _))
  | [] => inferInstanceAs (Decidable True)

theorem contains_iff {ranges : CharRanges} (h : ranges.Ascending) {c : Char} :
    ranges.contains c = true ↔ ∃ range ∈ ranges, range.1 ≤ c.toNat ∧ c.toNat ≤ range.2 := by
  induction ranges with
  | nil => simp [contains]
  | cons range rest ih =>
    obtain ⟨first, last⟩ := range
    have hrest : Ascending rest := by
      cases rest with
      | nil => trivial
      | cons => exact h.2.2
    have hlater : ∀ range ∈ rest, last < range.1 := by
      clear ih
      induction rest generalizing first last with
      | nil => simp
      | cons next rest ih =>
        intro range hmem
        have hnext : last < next.1 ∧ next.1 ≤ next.2 := by
          refine ⟨h.2.1, ?_⟩
          cases rest with
          | nil => exact h.2.2
          | cons => exact h.2.2.1
        cases hmem with
        | head => exact hnext.1
        | tail _ hmem =>
          have htail : Ascending rest := by
            cases rest with
            | nil => trivial
            | cons => exact h.2.2.2.2
          have := ih next.1 next.2 h.2.2 htail range hmem
          omega
    have hfirst : first ≤ last := by
      cases rest with
      | nil => exact h
      | cons => exact h.1
    simp only [contains, List.mem_cons, exists_eq_or_imp, ← ih hrest]
    by_cases hlt : c.toNat < first
    . simp only [hlt, if_true, Bool.false_eq_true, false_iff, not_or]
      refine ⟨by omega, ?_⟩
      intro hmem
      obtain ⟨range, hrange, hle, _⟩ := (ih hrest).1 hmem
      have := hlater range hrange
      omega
    . by_cases hle : c.toNat ≤ last <;> simp [hlt, hle] <;> omega

end CharRanges

end SqlExpr
