import SqlExpr.Proofs.Grammar.Reads
import SqlExpr.Proofs.Outcome

/-!
This module contains the tokens of the texts that the standard compiler puts together. Brackets,
commas, dots and spaces are never part of a longer token, so the tokens of a text are the tokens of
its parts; only a sign before an operand needs the space that the compiler puts between two signs.
-/

namespace SqlExpr

def Alone (c : Char) : Prop :=
  ∀ d, joins c d = false ∧ joins d c = false

theorem alone_of_mem {c : Char} (h : c ∈ [' ', '(', ')', ',', '.']) : Alone c := by
  simp only [List.mem_cons, List.not_mem_nil, or_false] at h
  have hword : isWord c = false := by
    rcases h with rfl | rfl | rfl | rfl | rfl <;> decide +kernel
  have hothers : c ≠ '=' ∧ c ≠ '<' ∧ c ≠ '>' ∧ c ≠ '!' ∧ c ≠ '-' ∧ c ≠ '/' ∧ c ≠ '*' := by
    rcases h with rfl | rfl | rfl | rfl | rfl <;> decide
  intro d
  simp [joins, hword, hothers]

theorem apart_left {text : String} (h : ∀ c ∈ text.toList.getLast?, Alone c) (text' : String) :
    Apart text text' := fun c hc d _ => (h c hc d).1

theorem apart_right {text' : String} (h : ∀ c ∈ text'.toList.head?, Alone c) (text : String) :
    Apart text text' := fun d _ c hc => (h c hc d).2

/--
Whether a text begins and ends with characters that are never in one token with others.
-/
structure Separates (text : String) : Prop where
  head : ∃ c ∈ text.toList.head?, Alone c
  last : ∃ c ∈ text.toList.getLast?, Alone c

theorem separates_of_mem {text : String} {first last : Char}
    (hhead : text.toList.head? = some first) (hlast : text.toList.getLast? = some last)
    (hfirst : first ∈ [' ', '(', ')', ',', '.']) (hmem : last ∈ [' ', '(', ')', ',', '.']) :
    Separates text :=
  ⟨⟨first, hhead, alone_of_mem hfirst⟩, ⟨last, hlast, alone_of_mem hmem⟩⟩

theorem tokens_separated {separator : String} (h : Separates separator) (text text' : String) :
    tokens (text ++ separator ++ text') = tokens text ++ tokens separator ++ tokens text' := by
  obtain ⟨⟨first, hhead, hfirst⟩, ⟨last, hlast, hlast'⟩⟩ := h
  rw [tokens_append, tokens_append]
  . apply apart_right
    intro c hc
    rw [Option.mem_unique hc hhead]
    exact hfirst
  . intro c hc d _
    rw [String.toList_append, List.getLast?_append, Option.mem_def.1 hlast] at hc
    cases hc
    exact (hlast' d).1

theorem tokens_space : tokens " " = [] := by
  decide +kernel

theorem separates_space : Separates " " :=
  separates_of_mem rfl rfl (by decide) (by decide)

theorem tokens_words (text text' : String) :
    tokens (text ++ " " ++ text') = tokens text ++ tokens text' := by
  rw [tokens_separated separates_space, tokens_space, List.append_nil]

theorem tokens_intercalate {separator : String} (h : Separates separator) (texts : List String) :
    tokens (separator.intercalate texts) = (tokens separator).intercalate (texts.map tokens) := by
  induction texts with
  | nil => rfl
  | cons text texts ih =>
    cases texts with
    | nil => simp
    | cons second texts =>
      rw [String.intercalate_cons_cons, tokens_separated h, ih]
      simp only [List.map_cons, List.intercalate_cons_cons]

theorem tokens_listText (texts : List String) :
    tokens (", ".intercalate texts) = listTokens (texts.map tokens) := by
  have hcomma : tokens ", " = [.mark .comma] := by decide +kernel
  rw [tokens_intercalate (separates_of_mem rfl rfl (by decide) (by decide)), hcomma]
  rfl

theorem tokens_chainText (op : ChainOp) (texts : List String) :
    tokens ((" " ++ op.keyword ++ " ").intercalate texts)
      =
    [Token.mark op.mark].intercalate (texts.map tokens) := by
  have hseparates : Separates (" " ++ op.keyword ++ " ") := by
    cases op <;> exact separates_of_mem rfl rfl (by decide) (by decide)
  have hkeyword : tokens (" " ++ op.keyword ++ " ") = [.mark op.mark] := by
    cases op <;> decide +kernel
  rw [tokens_intercalate hseparates, hkeyword]

theorem tokens_bracketed (text : String) :
    tokens ("(" ++ text ++ ")") = [.mark .opening] ++ tokens text ++ [.mark .closing] := by
  have hopening : tokens "(" = [.mark .opening] := tokens_mark .opening
  have hclosing : tokens ")" = [.mark .closing] := tokens_mark .closing
  rw [tokens_append, tokens_append, hopening, hclosing]
  . apply apart_left
    intro c hc
    cases hc
    apply alone_of_mem (by decide)
  . apply apart_right
    intro c hc
    cases hc
    apply alone_of_mem (by decide)

theorem tokens_callText {name : String} (h : Identifier name) (text : String) :
    tokens (name ++ "(" ++ text ++ ")")
      =
    [.name name, .mark .opening] ++ tokens text ++ [.mark .closing] := by
  have hassoc : name ++ "(" ++ text ++ ")" = name ++ ("(" ++ text ++ ")") := by
    simp only [String.append_assoc]
  rw [hassoc, tokens_append, tokens_name h, tokens_bracketed]
  . rfl
  . apply apart_right
    intro c hc
    rw [String.append_assoc, String.toList_append, List.head?_append] at hc
    cases hc
    apply alone_of_mem (by decide)

theorem tokens_columnText {table name : String} (htable : Identifier table)
    (hname : Identifier name) :
    tokens (table ++ "." ++ name) = [.name table, .mark .dot, .name name] := by
  have hdot : tokens "." = [.mark .dot] := tokens_mark .dot
  rw [tokens_separated (separates_of_mem rfl rfl (by decide) (by decide)), hdot]
  rw [tokens_name htable, tokens_name hname]
  rfl

theorem tokens_symbol (op : Infix) : tokens op.symbol = op.tokens := by
  cases op with
  | operator op => cases op <;> decide +kernel
  | setOperation op => cases op <;> decide +kernel

theorem tokens_infixText (op : Infix) (left right : String) :
    tokens (Handler.infixText left op.symbol right) = tokens left ++ op.tokens ++ tokens right := by
  unfold Handler.infixText
  rw [tokens_words, tokens_words, tokens_symbol]

theorem tokens_prefixText (op : UnaryOp) (text : String) :
    tokens (op.symbol ++ Handler.separator op.symbol text ++ text)
      =
    [.mark op.mark] ++ tokens text := by
  have hsymbol : op.symbol = op.mark.text := by cases op <;> rfl
  by_cases hspace : Handler.separator op.symbol text = " "
  . rw [hspace, tokens_words, hsymbol, tokens_mark]
  . have hseparator : Handler.separator op.symbol text = "" := by
      simp only [Handler.separator] at hspace ⊢
      split at hspace
      . contradiction
      . next h => rw [if_neg h]
    rw [hseparator, String.append_empty, tokens_append, hsymbol, tokens_mark]
    intro c hc d hd
    -- A word would be followed by a space, and a sign by one if the text began with a sign.
    have hlast : op.symbol.toList.getLast? = some c := hc
    have hword : isAlphabetic c = false := by
      cases h : isAlphabetic c with
      | false => rfl
      | true => simp [Handler.separator, hlast, h] at hseparator
    have hsign : Handler.isSign c = true := by
      cases op with
      | plus | minus => cases hc; rfl
      | not =>
        cases hc
        exact absurd hword (by decide +kernel)
    have hnotsign : Handler.isSign d = false := by
      cases h : Handler.isSign d with
      | false => rfl
      | true =>
        have hhead : text.toList.head? = some d := hd
        simp [Handler.separator, hlast, hhead, h, hsign] at hseparator
    have hdigit : isWord c = false := by
      cases op with
      | plus | minus => cases hc; decide +kernel
      | not =>
        cases hc
        exact absurd hword (by decide +kernel)
    have hequals : c ≠ '<' ∧ c ≠ '>' ∧ c ≠ '!' ∧ c ≠ '/' := by
      cases op <;> cases hc <;> decide
    have hminus : d ≠ '-' := by
      intro heq
      rw [heq] at hnotsign
      cases hnotsign
    simp [joins, hdigit, hequals, hminus]

/-! Queries. -/

theorem tokens_spaced (texts : List String) :
    tokens (" ".intercalate texts) = texts.flatMap tokens := by
  induction texts with
  | nil => rfl
  | cons text texts ih =>
    cases texts with
    | nil => simp
    | cons second texts =>
      rw [String.intercalate_cons_cons, tokens_words, ih]
      rfl

theorem flatMap_tokens_clauseTexts {keyword : String} {ms : List Mark}
    (hkeyword : tokens keyword = ms.map .mark) (texts : List String) :
    (Query.clauseTexts keyword texts).flatMap tokens = clauseTokens ms (texts.map tokens) := by
  cases texts with
  | nil => rfl
  | cons text texts =>
    simp only [Query.clauseTexts, clauseTokens, List.isEmpty_cons, Bool.false_eq_true, if_false,
      List.map_cons, List.flatMap_cons, List.flatMap_nil, List.append_nil, tokens_listText, hkeyword]

theorem flatMap_tokens_countClause {keyword : String} {m : Mark}
    (hkeyword : tokens keyword = [.mark m]) (count? : Option UInt64) :
    (Handler.countClause keyword count?).flatMap tokens = countTokens m count? := by
  cases count? with
  | none => rfl
  | some count => simp [Handler.countClause, countTokens, hkeyword, tokens_number]

theorem tokens_queryText (q : Query String) : tokens q.text = (q.map tokens).tokens := by
  have hselect : ["SELECT"].flatMap tokens = [.mark .select] := by decide +kernel
  have hdistinct : (if q.distinct then ["DISTINCT"] else []).flatMap tokens
      = if q.distinct then [.mark .distinct] else [] := by
    cases q.distinct <;> decide +kernel
  have hcolumns : [if q.columns.isEmpty then "*" else ", ".intercalate q.columns].flatMap tokens
      = if (q.columns.map tokens).isEmpty then [.mark .star]
        else listTokens (q.columns.map tokens) := by
    have hstar : tokens "*" = [.mark .star] := tokens_mark .star
    cases q.columns with
    | nil => simp [hstar]
    | cons column columns => simp [tokens_listText]
  have hfrom : tokens "FROM" = [Mark.from].map .mark := tokens_mark .from
  have hwhere : tokens "WHERE" = [Mark.where].map .mark := tokens_mark .where
  have hgroup : tokens "GROUP BY" = [Mark.group, Mark.by].map .mark := by decide +kernel
  have hhaving : tokens "HAVING" = [Mark.having].map .mark := tokens_mark .having
  have horder : tokens "ORDER BY" = [Mark.order, Mark.by].map .mark := by decide +kernel
  have hlimit : tokens "LIMIT" = [.mark .limit] := tokens_mark .limit
  have hoffset : tokens "OFFSET" = [.mark .offset] := tokens_mark .offset
  unfold Query.text
  rw [tokens_spaced]
  simp only [List.flatMap_append, hselect, hdistinct, hcolumns,
    flatMap_tokens_clauseTexts hfrom, flatMap_tokens_clauseTexts hwhere,
    flatMap_tokens_clauseTexts hgroup, flatMap_tokens_clauseTexts hhaving,
    flatMap_tokens_clauseTexts horder, flatMap_tokens_countClause hlimit,
    flatMap_tokens_countClause hoffset]
  simp only [Query.tokens, Query.map, Option.toList_map]
  rfl

end SqlExpr
