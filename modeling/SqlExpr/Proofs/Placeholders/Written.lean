import SqlExpr.Proofs.Outcome
import SqlExpr.Proofs.Placeholders.Fill

/-!
This module contains what is known of a text with placeholders while it grows (`Written`), and of the
outcome that it is part of (`Outcome.Follows`).

The texts of two expressions that differ in the place of placeholders only could be told apart by the
space between two signs, which depends on the first character of an operand. `Leads` is what has to
be known of a text with a placeholder at its front.
-/

namespace SqlExpr

/--
Whether a placeholder at the front of a text is all of it or has a space after it.
-/
def Leads (text : String) : Prop :=
  ∀ cs, text.toList = '?' :: cs → cs = [] ∨ ∃ cs', cs = ' ' :: cs'

namespace Leads

variable {text : String}

theorem of_head_ne {c : Char} (cs : List Char) (h : text.toList = c :: cs) (hc : c ≠ '?') :
    Leads text := by
  intro cs' heq
  rw [h, List.cons.injEq] at heq
  exact absurd heq.1 hc

theorem of_not_mem (h : '?' ∉ text.toList) : Leads text := by
  intro cs heq
  simp [heq] at h

theorem plain_append {other : String} (hne : other ≠ "") (hother : '?' ∉ other.toList)
    (text : String) : Leads (other ++ text) := by
  cases hchars : other.toList with
  | nil =>
    exact absurd (String.toList_eq_nil_iff.1 hchars) hne
  | cons c cs =>
    rw [hchars, List.mem_cons, not_or] at hother
    apply of_head_ne (cs ++ text.toList) (c := c) _ (Ne.symm hother.1)
    rw [String.toList_append, hchars]
    rfl

theorem append_space (h : Leads text) (other : String) : Leads (text ++ " " ++ other) := by
  intro cs heq
  simp only [String.toList_append] at heq
  cases htext : text.toList with
  | nil =>
    rw [htext] at heq
    cases heq
  | cons c rest =>
    rw [htext] at heq
    simp only [List.cons_append, List.cons.injEq] at heq
    rw [heq.1] at htext
    rcases h rest htext with hrest | ⟨rest', hrest⟩
    . rw [hrest] at heq
      exact .inr ⟨other.toList, heq.2.symm⟩
    . rw [hrest] at heq
      exact .inr ⟨_, heq.2.symm⟩

end Leads

/--
What is known of a text with placeholders and of the text with strings in their places.
-/
structure Written (enc : Value → String) (text : String) (vs : List Value) (text' : String) :
    Prop where
  fills : Fills enc text vs text'
  leads : Leads text

namespace Written

variable {enc : Value → String} {text text' : String} {vs : List Value}

theorem plain (h : '?' ∉ text.toList) : Written enc text [] text :=
  ⟨.plain h, .of_not_mem h⟩

theorem bracket (h : Written enc text vs text') (own p : Precedence) :
    Written enc (Compiler.bracket own p text) vs (Compiler.bracket own p text') := by
  unfold Compiler.bracket
  split
  . constructor
    . apply Fills.append_plain _ (by decide)
      apply Fills.plain_append (by decide) h.fills
    . rw [String.append_assoc]
      apply Leads.plain_append (by decide) (by decide)
  . exact h

theorem separator (h : Written enc text vs text')
    (hsign : ∀ v, (enc v).toList.head?.any Handler.isSign = false) (symbol : String) :
    Handler.separator symbol text' = Handler.separator symbol text := by
  have hhead : text'.toList.head?.any Handler.isSign = text.toList.head?.any Handler.isSign := by
    have hcount := h.fills.count
    rw [← h.fills.filled, fill, String.toList_ofList]
    cases htext : text.toList with
    | nil => rfl
    | cons c cs =>
      by_cases hc : c = '?'
      . rw [hc] at htext
        rw [htext, List.count_cons_self] at hcount
        cases vs with
        | nil => cases hcount
        | cons v vs =>
          simp only [fillChars, if_pos hc, List.map_cons]
          have henc := hsign v
          cases hchars : (enc v).toList with
          | nil =>
            -- The string is empty, so the first character is the one after the placeholder.
            rcases h.leads cs htext with hcs | ⟨cs', hcs⟩
            . rw [hcs, hc]
              rfl
            . rw [hcs, hc]
              rfl
          | cons first rest =>
            rw [hchars] at henc
            rw [hc]
            exact henc
      . simp only [fillChars, if_neg hc, List.head?_cons]
  simp only [Handler.separator, hhead]

end Written

theorem FillsAll.clauseTexts {enc : Value → String} {keyword : String}
    (hkeyword : '?' ∉ keyword.toList) {texts texts' : List String} {vs : List Value}
    (h : FillsAll enc texts vs texts') :
    FillsAll enc (Query.clauseTexts keyword texts) vs (Query.clauseTexts keyword texts') := by
  unfold Query.clauseTexts
  rw [h.isEmpty_eq]
  split
  . next hempty =>
    rw [List.isEmpty_iff] at hempty
    rw [hempty] at h
    cases h
    exact .nil
  . have hlist : Fills enc (", ".intercalate texts) vs (", ".intercalate texts') :=
      h.intercalate (by decide)
    have hclause : FillsAll enc _ ([] ++ (vs ++ [])) _ :=
      .cons (.plain hkeyword) (.cons hlist .nil)
    rw [List.append_nil, List.nil_append] at hclause
    exact hclause

theorem FillsAll.columns {enc : Value → String} {texts texts' : List String} {vs : List Value}
    (h : FillsAll enc texts vs texts') :
    FillsAll enc [if texts.isEmpty then "*" else ", ".intercalate texts] vs
      [if texts'.isEmpty then "*" else ", ".intercalate texts'] := by
  have hlist : Fills enc (", ".intercalate texts) vs (", ".intercalate texts') :=
    h.intercalate (by decide)
  rw [h.isEmpty_eq, ← List.append_nil vs]
  apply FillsAll.cons _ .nil
  split
  . next hempty =>
    rw [List.isEmpty_iff] at hempty
    rw [hempty] at h
    cases h
    exact .plain (by decide)
  . exact hlist

theorem FillsAll.countClause {enc : Value → String} {keyword : String}
    (hkeyword : '?' ∉ keyword.toList) (count? : Option UInt64) :
    FillsAll enc (Handler.countClause keyword count?) [] (Handler.countClause keyword count?) := by
  apply FillsAll.plain
  intro text hmem
  cases count? with
  | none => cases hmem
  | some count =>
    simp only [Handler.countClause, List.mem_cons, List.not_mem_nil, or_false] at hmem
    cases hmem with
    | inl h =>
      rw [h]
      exact hkeyword
    | inr h =>
      rw [h, Nat.toList_repr]
      intro hdigit
      have := Nat.isDigit_of_mem_toDigits (by decide) (by decide) hdigit
      contradiction

theorem leads_queryText (q : Query String) : Leads q.text := by
  unfold Query.text
  simp only [List.append_assoc, List.cons_append, List.nil_append]
  rw [String.intercalate_cons_of_ne_nil (by simp), String.append_assoc]
  apply Leads.plain_append (by decide) (by decide)

theorem written_queryText {enc : Value → String} {distinct : Bool} {limit offset : Option UInt64}
    {columns columns' sources sources' groups groups' order order' : List String}
    {filter filter' groupFilter groupFilter' : Option String}
    {columnVs sourceVs filterVs groupVs groupFilterVs orderVs : List Value}
    (hcolumns : FillsAll enc columns columnVs columns')
    (hsources : FillsAll enc sources sourceVs sources')
    (hfilter : FillsAll enc filter.toList filterVs filter'.toList)
    (hgroups : FillsAll enc groups groupVs groups')
    (hgroupFilter : FillsAll enc groupFilter.toList groupFilterVs groupFilter'.toList)
    (horder : FillsAll enc order orderVs order') :
    Written enc
      (Query.text ⟨distinct, columns, sources, filter, groups, groupFilter, order, limit, offset⟩)
      (columnVs ++ sourceVs ++ filterVs ++ groupVs ++ groupFilterVs ++ orderVs)
      (Query.text
        ⟨distinct, columns', sources', filter', groups', groupFilter', order', limit, offset⟩) := by
  have hselect : FillsAll enc (["SELECT"] ++ if distinct then ["DISTINCT"] else []) []
      (["SELECT"] ++ if distinct then ["DISTINCT"] else []) := by
    apply FillsAll.plain
    cases distinct <;> decide
  have hfrom : FillsAll enc (Query.clauseTexts "FROM" sources) _ _ :=
    hsources.clauseTexts (by decide)
  have hwhere : FillsAll enc (Query.clauseTexts "WHERE" _) _ _ := hfilter.clauseTexts (by decide)
  have hgroupBy : FillsAll enc (Query.clauseTexts "GROUP BY" groups) _ _ :=
    hgroups.clauseTexts (by decide)
  have hhaving : FillsAll enc (Query.clauseTexts "HAVING" _) _ _ :=
    hgroupFilter.clauseTexts (by decide)
  have horderBy : FillsAll enc (Query.clauseTexts "ORDER BY" order) _ _ :=
    horder.clauseTexts (by decide)
  have hlimit : FillsAll enc (Handler.countClause "LIMIT" limit) _ _ :=
    FillsAll.countClause (by decide) limit
  have hoffset : FillsAll enc (Handler.countClause "OFFSET" offset) _ _ :=
    FillsAll.countClause (by decide) offset
  have htexts := (((((((hselect.append hcolumns.columns).append hfrom).append hwhere).append
    hgroupBy).append hhaving).append horderBy).append hlimit).append hoffset
  have hfills : Fills enc (" ".intercalate _) _ (" ".intercalate _) :=
    htexts.intercalate (by decide)
  simp only [List.append_nil, List.nil_append] at hfills
  exact ⟨hfills, leads_queryText _⟩

namespace Outcome

variable {α β : Type} {enc : Value → String}

/--
Whether, if an outcome is a result with values, another one is a result without any that stands in a
relation to them.
-/
def Follows (R : α → List Value → α → Prop) (o o' : Outcome α) : Prop :=
  ∀ a vs, o = ⟨.ok a, vs⟩ → ∃ a', o' = ⟨.ok a', []⟩ ∧ R a vs a'

theorem Follows.pure {R : α → List Value → α → Prop} {a a' : α} (h : R a [] a') :
    Follows R (Pure.pure a) (Pure.pure a') := by
  intro b vs heq
  cases heq
  exact ⟨a', rfl, h⟩

theorem Follows.bind {R : α → List Value → α → Prop} {S : β → List Value → β → Prop}
    {o o' : Outcome α} {f f' : α → Outcome β} (h : Follows R o o')
    (hf : ∀ a us a', R a us a' →
      Follows (fun b vs b' => S b (us ++ vs) b') (f a) (f' a')) :
    Follows S (o >>= f) (o' >>= f') := by
  intro b ws heq
  obtain ⟨a, us, vs, ho, hfa, hws⟩ := bind_eq_ok heq
  obtain ⟨a', ho', hR⟩ := h a us ho
  obtain ⟨b', hfa', hS⟩ := hf a us a' hR b vs hfa
  refine ⟨b', ?_, ?_⟩
  . rw [ho', ok_bind, hfa']
    rfl
  . rw [hws]
    exact hS

theorem Follows.bracketed {own p : Precedence} {o o' : Outcome String}
    (h : Follows (Written enc) o o') :
    Follows (Written enc) (o.bracketed own p) (o'.bracketed own p) := by
  unfold Outcome.bracketed
  apply h.bind
  intro text us text' hwritten
  apply Follows.pure
  rw [List.append_nil]
  apply hwritten.bracket

theorem Follows.joined {symbol : String} (hsymbol : '?' ∉ symbol.toList)
    {left left' right right' : Outcome String} (hleft : Follows (Written enc) left left')
    (hright : Follows (Written enc) right right') :
    Follows (Written enc) (.joined symbol left right) (.joined symbol left' right') := by
  unfold Outcome.joined
  apply hleft.bind
  intro leftText us leftText' hleft
  apply hright.bind
  intro rightText vs rightText' hright
  apply Follows.pure
  rw [List.append_nil]
  unfold Handler.infixText
  constructor
  . apply Fills.append _ hright.fills
    apply Fills.append_plain _ (by decide)
    apply Fills.append_plain _ hsymbol
    apply Fills.append_plain hleft.fills (by decide)
  . rw [String.append_assoc, String.append_assoc]
    apply hleft.leads.append_space

end Outcome

end SqlExpr
