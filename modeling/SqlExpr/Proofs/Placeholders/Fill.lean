import SqlExpr.Value

/-!
This module contains the replacement of placeholders in a text (`fill`), and the relation between a
text with placeholders for some values and the same text with strings in their places (`Fills`). The
relation goes through everything that texts are put together with, as long as what is put between
them has no placeholders of its own.
-/

namespace SqlExpr

/--
Characters with strings in the places of `'?'`, from left to right. If there are not enough strings,
the rest stays as it is.
-/
def fillChars : List Char → List String → List Char
  | [], _ => []
  | c :: cs, strings =>
    if c = '?' then
      match strings with
      | [] => c :: cs
      | string :: strings => string.toList ++ fillChars cs strings
    else
      c :: fillChars cs strings

def fill (text : String) (strings : List String) : String :=
  .ofList (fillChars text.toList strings)

theorem fillChars_append {cs : List Char} {strings : List String}
    (h : cs.count '?' = strings.length) (cs' : List Char) (strings' : List String) :
    fillChars (cs ++ cs') (strings ++ strings')
      =
    fillChars cs strings ++ fillChars cs' strings' := by
  induction cs generalizing strings with
  | nil =>
    cases strings with
    | nil => rfl
    | cons string strings => cases h
  | cons c cs ih =>
    by_cases hc : c = '?'
    . rw [hc, List.count_cons_self] at h
      cases strings with
      | nil => cases h
      | cons string strings =>
        rw [List.length_cons, Nat.add_right_cancel_iff] at h
        simp only [List.cons_append, fillChars, if_pos hc, List.append_assoc, ih h]
    . rw [List.count_cons_of_ne hc] at h
      simp only [List.cons_append, fillChars, if_neg hc, ih h]

theorem fillChars_of_not_mem {cs : List Char} (h : '?' ∉ cs) (strings : List String) :
    fillChars cs strings = cs := by
  induction cs with
  | nil => rfl
  | cons c cs ih =>
    rw [List.mem_cons, not_or] at h
    simp only [fillChars, if_neg (Ne.symm h.1), ih h.2]

/--
Whether a text has a placeholder for each of some values, and is another text with the encoded values
in their places.
-/
structure Fills (enc : Value → String) (text : String) (vs : List Value) (text' : String) :
    Prop where
  count : text.toList.count '?' = vs.length
  filled : fill text (vs.map enc) = text'

namespace Fills

variable {enc : Value → String} {text text' other other' : String} {vs ws : List Value}

theorem plain (h : '?' ∉ text.toList) : Fills enc text [] text := by
  constructor
  . apply List.count_eq_zero_of_not_mem h
  . unfold fill
    rw [fillChars_of_not_mem h, String.ofList_toList]

theorem placeholder (v : Value) : Fills enc "?" [v] (enc v) := by
  constructor
  . rfl
  . change String.ofList ((enc v).toList ++ []) = enc v
    rw [List.append_nil, String.ofList_toList]

theorem append (h : Fills enc text vs text') (h' : Fills enc other ws other') :
    Fills enc (text ++ other) (vs ++ ws) (text' ++ other') := by
  constructor
  . rw [String.toList_append, List.count_append, List.length_append, h.count, h'.count]
  . have hcount : text.toList.count '?' = (vs.map enc).length := by
      rw [List.length_map]
      exact h.count
    unfold fill
    rw [String.toList_append, List.map_append, fillChars_append hcount, String.ofList_append]
    rw [← h.filled, ← h'.filled]
    rfl

theorem append_plain (h : Fills enc text vs text') (hother : '?' ∉ other.toList) :
    Fills enc (text ++ other) vs (text' ++ other) := by
  have happend := h.append (plain hother)
  rw [List.append_nil] at happend
  exact happend

theorem plain_append (hother : '?' ∉ other.toList) (h : Fills enc text vs text') :
    Fills enc (other ++ text) vs (other ++ text') :=
  (plain hother).append h

end Fills

inductive FillsAll (enc : Value → String) : List String → List Value → List String → Prop where
  | nil : FillsAll enc [] [] []
  | cons {text text' : String} {texts texts' : List String} {vs ws : List Value}
      (first : Fills enc text vs text') (rest : FillsAll enc texts ws texts') :
      FillsAll enc (text :: texts) (vs ++ ws) (text' :: texts')

namespace FillsAll

variable {enc : Value → String} {texts texts' others others' : List String} {vs ws : List Value}

theorem plain (h : ∀ text ∈ texts, '?' ∉ text.toList) : FillsAll enc texts [] texts := by
  induction texts with
  | nil => exact .nil
  | cons text texts ih =>
    rw [List.forall_mem_cons] at h
    exact .cons (.plain h.1) (ih h.2)

theorem append (h : FillsAll enc texts vs texts') (h' : FillsAll enc others ws others') :
    FillsAll enc (texts ++ others) (vs ++ ws) (texts' ++ others') := by
  induction h with
  | nil => exact h'
  | cons first _ ih =>
    rw [List.append_assoc]
    exact .cons first ih

theorem isEmpty_eq (h : FillsAll enc texts vs texts') : texts'.isEmpty = texts.isEmpty := by
  cases h <;> rfl

theorem intercalate {separator : String} (hseparator : '?' ∉ separator.toList)
    (h : FillsAll enc texts vs texts') :
    Fills enc (separator.intercalate texts) vs (separator.intercalate texts') := by
  induction h with
  | nil => exact .plain (by simp)
  | cons first rest ih =>
    cases rest with
    | nil =>
      rw [String.intercalate_singleton, String.intercalate_singleton, List.append_nil]
      exact first
    | cons second rest =>
      rw [String.intercalate_cons_cons, String.intercalate_cons_cons]
      exact (first.append_plain hseparator).append ih

end FillsAll

end SqlExpr
