import SqlExpr.Text.Extending
import SqlExpr.Text.Ignorable
import SqlExpr.Text.Unprintable

/-!
This module contains quoted text: between double quotes, with an escape for every character that
would end the text or could not be seen. The apostrophe needs none. So all of a quoted text can be
seen (`Quoted.isHidden_of_mem_encode`).
-/

namespace SqlExpr.Quoted

def numeric (c : Char) : String :=
  "\\u\x7b" ++ String.ofList (Nat.toDigits 16 c.toNat) ++ "\x7d"

/--
Whether a character would not be seen by itself: it is drawn onto another one, looks like nothing or
has no printed form.
-/
def isHidden (c : Char) : Bool :=
  CharRanges.extending.contains c || CharRanges.ignorable.contains c
    || CharRanges.unprintable.contains c

theorem isHidden_iff {c : Char} :
    isHidden c = true
      ↔
    ∃ range ∈ CharRanges.extending ++ CharRanges.ignorable ++ CharRanges.unprintable,
      range.1 ≤ c.toNat ∧ c.toNat ≤ range.2 := by
  unfold isHidden
  rw [Bool.or_eq_true, Bool.or_eq_true, CharRanges.contains_iff CharRanges.extending_ascending,
    CharRanges.contains_iff CharRanges.ignorable_ascending,
    CharRanges.contains_iff CharRanges.unprintable_ascending]
  simp only [List.mem_append, or_and_right, exists_or]

theorem isHidden_of_ascii {c : Char} (h : 0x20 ≤ c.toNat) (h' : c.toNat < 0x7f) :
    isHidden c = false := by
  have hfar : ∀ range ∈ CharRanges.extending ++ CharRanges.ignorable ++ CharRanges.unprintable,
      range.2 < 0x20 ∨ 0x7f ≤ range.1 := by
    rw [List.forall_mem_append, List.forall_mem_append]
    exact ⟨⟨by decide +kernel, by decide +kernel⟩, by decide +kernel⟩
  rw [← Bool.not_eq_true, isHidden_iff]
  rintro ⟨range, hrange, hle, hle'⟩
  have := hfar range hrange
  omega

def escape (c : Char) : String :=
  if c = '\x00' then "\\0"
  else if c = '\t' then "\\t"
  else if c = '\r' then "\\r"
  else if c = '\n' then "\\n"
  else if c = '\x5c' then "\\\\"
  else if c = '\x22' then "\\\""
  else if isHidden c then numeric c
  else String.singleton c

def encode (s : String) : String :=
  "\"" ++ String.join (s.toList.map escape) ++ "\""

theorem isHidden_of_mem_ascii {c : Char} {text : String}
    (htext : text.toList.all (fun c => 0x20 ≤ c.toNat ∧ c.toNat < 0x7f)) (h : c ∈ text.toList) :
    isHidden c = false := by
  obtain ⟨hle, hlt⟩ := of_decide_eq_true (List.all_eq_true.1 htext c h)
  exact isHidden_of_ascii hle hlt

theorem isHidden_digitChar {n : Nat} (h : n < 16) : isHidden n.digitChar = false := by
  have hbounds : ∀ n : Fin 16, 0x20 ≤ n.val.digitChar.toNat ∧ n.val.digitChar.toNat < 0x7f := by
    decide
  obtain ⟨hle, hlt⟩ := hbounds ⟨n, h⟩
  exact isHidden_of_ascii hle hlt

theorem isHidden_of_mem_toDigits {c : Char} {n : Nat} (h : c ∈ Nat.toDigits 16 n) :
    isHidden c = false := by
  induction n using Nat.strongRecOn with
  | _ n ih =>
    by_cases hn : n < 16
    . rw [Nat.toDigits_of_lt_base hn, List.mem_singleton] at h
      rw [h, isHidden_digitChar hn]
    . rw [Nat.toDigits_of_base_le (by decide) (Nat.not_lt.1 hn), List.mem_append,
        List.mem_singleton] at h
      rcases h with hinit | rfl
      . exact ih (n / 16) (by omega) hinit
      . exact isHidden_digitChar (Nat.mod_lt n (by decide))

theorem isHidden_of_mem_escape {c d : Char} (h : d ∈ (escape c).toList) : isHidden d = false := by
  unfold escape at h
  iterate 6
    split at h
    . exact isHidden_of_mem_ascii (by decide +kernel) h
  split at h
  . simp only [numeric, String.toList_append, String.toList_ofList, List.mem_append] at h
    rcases h with (hopen | hdigit) | hclose
    . exact isHidden_of_mem_ascii (by decide +kernel) hopen
    . exact isHidden_of_mem_toDigits hdigit
    . exact isHidden_of_mem_ascii (by decide +kernel) hclose
  . next hshown =>
    rw [String.toList_singleton, List.mem_singleton] at h
    rw [h, Bool.eq_false_iff.2 hshown]

/--
All of a quoted text can be seen, whatever is quoted.
-/
theorem isHidden_of_mem_encode {c : Char} {s : String} (h : c ∈ (encode s).toList) :
    isHidden c = false := by
  simp only [encode, String.toList_append, String.toList_join, List.mem_append, List.mem_flatMap,
    List.mem_map] at h
  rcases h with (hquote | ⟨_, ⟨d, _, rfl⟩, hescaped⟩) | hquote
  . exact isHidden_of_mem_ascii (by decide +kernel) hquote
  . exact isHidden_of_mem_escape hescaped
  . exact isHidden_of_mem_ascii (by decide +kernel) hquote

end SqlExpr.Quoted
