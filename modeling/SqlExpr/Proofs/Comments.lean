import Mathlib.Data.List.Chain
import SqlExpr.Node.Build
import SqlExpr.Proofs.Node.Everywhere
import SqlExpr.Proofs.Outcome.Compiles
import SqlExpr.Proofs.Outcome.Ensures

/-!
This module contains the proof that the standard compiler never starts a comment
(`Compiler.compiles_without_comments`): there are two minus signs in a row only if they are already
in a name, a symbol or a keyword. Between two texts there is always something to keep them apart,
or, after the symbol of a unary operator, the separator that is chosen by the characters at the two
ends (`Handler.separator`).
-/

namespace SqlExpr

/--
Whether a text has two minus signs in a row, which would start a comment.
-/
def HasComment (text : String) : Prop := ['-', '-'] <:+: text.toList

instance (text : String) : Decidable (HasComment text) :=
  inferInstanceAs (Decidable (_ <:+: _))

theorem not_hasComment_iff_isChain {text : String} :
    ¬HasComment text ↔ text.toList.IsChain fun a b => ¬(a = '-' ∧ b = '-') := by
  rw [List.isChain_iff_forall_rel_of_append_cons_cons]
  constructor
  . intro h a b before after htext hsigns
    apply h
    refine ⟨before, after, ?_⟩
    rw [htext, hsigns.1, hsigns.2]
    simp
  . intro h hcomment
    obtain ⟨before, after, htext⟩ := hcomment
    have hsplit : text.toList = before ++ '-' :: '-' :: after := by
      rw [← htext]
      simp
    exact h hsplit ⟨rfl, rfl⟩

theorem hasComment_append_iff {text text' : String} :
    HasComment (text ++ text')
      ↔
    HasComment text ∨ HasComment text' ∨
      (text.toList.getLast? = some '-' ∧ text'.toList.head? = some '-') := by
  have hends : (∀ a ∈ text.toList.getLast?, ∀ b ∈ text'.toList.head?, ¬(a = '-' ∧ b = '-'))
      ↔ ¬(text.toList.getLast? = some '-' ∧ text'.toList.head? = some '-') := by
    simp only [Option.mem_def]
    grind
  rw [← not_iff_not, not_or, not_or, not_hasComment_iff_isChain, not_hasComment_iff_isChain,
    not_hasComment_iff_isChain, String.toList_append, List.isChain_append, hends]

theorem not_hasComment_of_notMem {text : String} (h : '-' ∉ text.toList) : ¬HasComment text := by
  intro hcomment
  exact h (hcomment.subset List.mem_cons_self)

/-! Texts that are put together with something in between. -/

/--
Whether no comment arises from two texts with a mark between them.
-/
def KeepsApart (mark : String) : Prop :=
  ∀ text text', ¬HasComment text → ¬HasComment text' → ¬HasComment (text ++ mark ++ text')

theorem keepsApart_of_ends {mark : String} (h : ¬HasComment mark)
    (hhead : ∃ c ∈ mark.toList.head?, c ≠ '-') (hlast : ∃ c ∈ mark.toList.getLast?, c ≠ '-') :
    KeepsApart mark := by
  intro text text' htext htext'
  obtain ⟨first, hfirst, hhead⟩ := hhead
  obtain ⟨last, hlast', hlast⟩ := hlast
  rw [Option.mem_def] at hfirst hlast'
  rw [hasComment_append_iff, hasComment_append_iff, String.toList_append, List.getLast?_append,
    hfirst, hlast']
  simp [htext, htext', h, hhead, hlast]

theorem keepsApart_space : KeepsApart " " :=
  keepsApart_of_ends (by decide) ⟨' ', rfl, by decide⟩ ⟨' ', rfl, by decide⟩

theorem keepsApart_comma : KeepsApart ", " :=
  keepsApart_of_ends (by decide) ⟨',', rfl, by decide⟩ ⟨' ', rfl, by decide⟩

theorem KeepsApart.spaced {word : String} (h : ¬HasComment word) :
    KeepsApart (" " ++ word ++ " ") := by
  intro text text' htext htext'
  have hleft := keepsApart_space text word htext h
  have hjoined := keepsApart_space (text ++ " " ++ word) text' hleft htext'
  simpa only [String.append_assoc] using hjoined

theorem KeepsApart.intercalate {mark : String} (hmark : KeepsApart mark) {texts : List String}
    (h : ∀ text ∈ texts, ¬HasComment text) : ¬HasComment (mark.intercalate texts) := by
  induction texts with
  | nil =>
    rw [String.intercalate_nil]
    decide
  | cons text texts ih =>
    rw [List.forall_mem_cons] at h
    by_cases htexts : texts = []
    . rw [htexts, String.intercalate_singleton]
      exact h.1
    . rw [String.intercalate_cons_of_ne_nil htexts]
      exact hmark text _ h.1 (ih h.2)

variable {text : String}

theorem not_hasComment_infixText {left symbol right : String} (hleft : ¬HasComment left)
    (hsymbol : ¬HasComment symbol) (hright : ¬HasComment right) :
    ¬HasComment (Handler.infixText left symbol right) := by
  have hjoined := KeepsApart.spaced hsymbol left right hleft hright
  simpa only [Handler.infixText, String.append_assoc] using hjoined

theorem not_hasComment_callText {name : String} (hname : ¬HasComment name)
    (h : ¬HasComment text) : ¬HasComment (name ++ "(" ++ text ++ ")") := by
  have hopened : KeepsApart "(" :=
    keepsApart_of_ends (by decide) ⟨'(', rfl, by decide⟩ ⟨'(', rfl, by decide⟩
  have hclosing : ¬HasComment ")" := by decide
  rw [hasComment_append_iff]
  simp [hopened name text hname h, hclosing]

theorem not_hasComment_bracket (h : ¬HasComment text) (own p : Precedence) :
    ¬HasComment (Compiler.bracket own p text) := by
  unfold Compiler.bracket
  split
  . have hempty : ¬HasComment "" := by decide
    simpa only [String.empty_append] using not_hasComment_callText hempty h
  . exact h

theorem not_hasComment_columnText {table? : Option String} {name : String}
    (htable : ∀ qualifier ∈ table?, ¬HasComment qualifier) (hname : ¬HasComment name) :
    ¬HasComment (Node.columnText table? name) := by
  cases table? with
  | none => exact hname
  | some qualifier =>
    have hdot : KeepsApart "." :=
      keepsApart_of_ends (by decide) ⟨'.', rfl, by decide⟩ ⟨'.', rfl, by decide⟩
    exact hdot qualifier name (htable qualifier rfl) hname

/--
The separator of a unary operator is empty only if there is no sign at one of the two ends that it
stands between.
-/
theorem not_hasComment_prefixText {symbol : String} (hsymbol : ¬HasComment symbol)
    (h : ¬HasComment text) :
    ¬HasComment (symbol ++ Handler.separator symbol text ++ text) := by
  simp only [Handler.separator]
  split
  . exact keepsApart_space symbol text hsymbol h
  . next hsigns =>
    rw [String.append_empty, hasComment_append_iff]
    intro hcomment
    rcases hcomment with hcomment | hcomment | ⟨hlast, hhead⟩
    . exact hsymbol hcomment
    . exact h hcomment
    . apply hsigns
      rw [hlast, hhead]
      decide

theorem not_hasComment_number (n : Nat) : ¬HasComment (Nat.repr n) := by
  apply not_hasComment_of_notMem
  intro hmem
  rw [Nat.toList_repr] at hmem
  have hdigit := Nat.isDigit_of_mem_toDigits (by decide) (by decide) hmem
  revert hdigit
  decide

/-! The text of a query. -/

theorem not_hasComment_clauseTexts {keyword : String} (hkeyword : '-' ∉ keyword.toList)
    {texts : List String} (h : ∀ text ∈ texts, ¬HasComment text) :
    ∀ text ∈ Query.clauseTexts keyword texts, ¬HasComment text := by
  unfold Query.clauseTexts
  split
  . nofun
  . simpa using ⟨not_hasComment_of_notMem hkeyword, keepsApart_comma.intercalate h⟩

theorem not_hasComment_countClause {keyword : String} (hkeyword : '-' ∉ keyword.toList)
    (count? : Option UInt64) :
    ∀ text ∈ Handler.countClause keyword count?, ¬HasComment text := by
  cases count? with
  | none => nofun
  | some count =>
    simpa [Handler.countClause] using
      ⟨not_hasComment_of_notMem hkeyword, not_hasComment_number count.toNat⟩

theorem not_hasComment_queryText {q : Query String} (h : ∀ text ∈ q.parts, ¬HasComment text) :
    ¬HasComment q.text := by
  obtain ⟨hcolumns, hsources, hfilter, hgroups, hgroupFilter, horder⟩ := Query.forall_mem_parts.1 h
  have hselect : ¬HasComment "SELECT" := not_hasComment_of_notMem (by simp)
  have hdistinct : ∀ text ∈ if q.distinct then ["DISTINCT"] else [], ¬HasComment text := by
    split
    . simpa using not_hasComment_of_notMem (by simp)
    . nofun
  have hlisted : ¬HasComment (if q.columns.isEmpty then "*" else ", ".intercalate q.columns) := by
    split
    . decide
    . exact keepsApart_comma.intercalate hcolumns
  unfold Query.text
  apply keepsApart_space.intercalate
  simp only [List.forall_mem_append, List.forall_mem_singleton, and_assoc]
  refine ⟨hselect, hdistinct, hlisted, ?_, ?_, ?_, ?_, ?_, ?_, ?_⟩
  . exact not_hasComment_clauseTexts (by simp) hsources
  . exact not_hasComment_clauseTexts (by simp) (by simpa using hfilter)
  . exact not_hasComment_clauseTexts (by simp) hgroups
  . exact not_hasComment_clauseTexts (by simp) (by simpa using hgroupFilter)
  . exact not_hasComment_clauseTexts (by simp) horder
  . exact not_hasComment_countClause (by simp) q.limit
  . exact not_hasComment_countClause (by simp) q.offset

namespace Node

/--
The names, symbols and keywords that a node itself is written with, as far as they are not fixed.
-/
def words : Node → List String
  | .unary _ symbol _ | .binary _ symbol _ _ => [symbol]
  | .chain _ keyword _ _ => [keyword]
  | .call _ name _ | .table name => [name]
  | .column table? name => table?.toList ++ [name]
  | _ => []

/--
Whether no comment starts in a text that the standard compiler makes of an expression.
-/
def Commentless (d : Dialect) (node : Node) : Prop :=
  ∀ p, Outcome.Ensures (fun text => ¬HasComment text) (node.outcome d p)

variable {d : Dialect} {node : Node}

theorem ensures_bracketed {o : Outcome String}
    (h : Outcome.Ensures (fun text => ¬HasComment text) o) (own p : Precedence) :
    Outcome.Ensures (fun text => ¬HasComment text) (o.bracketed own p) := by
  refine h.bind ?_
  intro text htext
  exact .pure (not_hasComment_bracket htext own p)

theorem Commentless.of_bracketed {own : Precedence} {o : Outcome String}
    (hnode : ∀ p, node.outcome d p = .bracketed own p o)
    (h : Outcome.Ensures (fun text => ¬HasComment text) o) : Commentless d node := by
  intro p
  rw [hnode]
  exact ensures_bracketed h own p

/--
The symbol that an operator is written with is its own one or that of an identity test.
-/
theorem not_hasComment_spelling? {kind : Kind} {symbol : String} {right : Node}
    {own : Precedence} {written : String} (hsymbol : ¬HasComment symbol)
    (h : spelling? kind symbol right = some (own, written)) : ¬HasComment written := by
  unfold spelling? at h
  split at h
  . cases h
    exact hsymbol
  . split at h
    . cases h
      split <;> exact not_hasComment_of_notMem (by simp [BinaryOp.symbol])
    . cases h
      exact hsymbol
  . cases h

variable (hplaceholder : ¬HasComment d.placeholder) (hnull : ¬HasComment d.nullKeyword)

include hplaceholder hnull in
theorem commentless_of_isLeaf (h : node.IsLeaf) : Commentless d node := by
  intro p
  rw [outcome_of_isLeaf h]
  unfold leafOutcome
  split
  . nofun
  . apply ensures_bracketed
    refine .pure ?_
    exact hnull
  . split
    . nofun
    . apply ensures_bracketed
      intro text vs heq
      cases heq
      exact hplaceholder
  . nofun

include hplaceholder hnull in
/--
No comment starts in the text of a node that is written with words without comments, if none starts
in the texts of its parts.
-/
theorem commentless_of_everywhere
    (h : node.Everywhere fun part => ∀ word ∈ part.words, ¬HasComment word) :
    Commentless d node := by
  induction node with
  | literal x => exact commentless_of_isLeaf hplaceholder hnull (isLeaf_literal x)
  | unary kind symbol operand ih =>
    by_cases hservice : kind.service? = some .unary
    . have hsymbol : ¬HasComment symbol := h.here symbol List.mem_cons_self
      apply Commentless.of_bracketed
      . intro p
        unfold outcome
        rw [if_pos hservice]
      . refine (ih (h.of_mem_parts List.mem_cons_self) _).bind ?_
        intro text htext
        exact .pure (not_hasComment_prefixText hsymbol htext)
    . exact commentless_of_isLeaf hplaceholder hnull (isLeaf_unary hservice)
  | binary kind symbol left right ihleft ihright =>
    cases hspelling : spelling? kind symbol right with
    | none => exact commentless_of_isLeaf hplaceholder hnull (isLeaf_binary hspelling)
    | some spelling =>
      have hleft := ihleft (h.of_mem_parts List.mem_cons_self)
      have hright := ihright (h.of_mem_parts (List.mem_cons_of_mem _ List.mem_cons_self))
      have hwritten := not_hasComment_spelling? (h.here symbol List.mem_cons_self) hspelling
      apply Commentless.of_bracketed
      . intro p
        unfold outcome
        rw [hspelling]
      . refine (hleft _).joined (hright _) ?_
        intro leftText rightText hleftText hrightText
        exact not_hasComment_infixText hleftText hwritten hrightText
  | chain kind keyword first rest ih =>
    by_cases hservice : kind.service? = some .chain
    . have hkeyword : ¬HasComment keyword := h.here keyword List.mem_cons_self
      have hoperands : ∀ operand ∈ first :: rest, Commentless d operand :=
        fun operand hmem => ih operand hmem (h.of_mem_parts hmem)
      apply Commentless.of_bracketed (fun p => outcome_chain hservice keyword first rest)
      refine (ensures_outcomeAll hoperands _).bind ?_
      intro texts htexts
      exact .pure ((KeepsApart.spaced hkeyword).intercalate htexts)
    . exact commentless_of_isLeaf hplaceholder hnull (isLeaf_chain hservice)
  | call kind name args ih =>
    by_cases hservice : kind.service? = some .call
    . have hname : ¬HasComment name := h.here name List.mem_cons_self
      have hargs : ∀ arg ∈ args, Commentless d arg :=
        fun arg hmem => ih arg hmem (h.of_mem_parts hmem)
      apply Commentless.of_bracketed
      . intro p
        unfold outcome
        rw [if_pos hservice]
      . refine (ensures_outcomeAll hargs _).bind ?_
        intro texts htexts
        exact .pure (not_hasComment_callText hname (keepsApart_comma.intercalate htexts))
    . exact commentless_of_isLeaf hplaceholder hnull (isLeaf_call hservice)
  | table name =>
    apply Commentless.of_bracketed (fun p => rfl)
    exact .pure (h.here name List.mem_cons_self)
  | column table? name =>
    have hwords := h.here
    simp only [words, List.forall_mem_append, List.forall_mem_singleton,
      Option.mem_toList] at hwords
    apply Commentless.of_bracketed (fun p => rfl)
    exact .pure (not_hasComment_columnText hwords.1 hwords.2)
  | select q ih =>
    have hparts : ∀ part ∈ q.parts, Commentless d part :=
      fun part hmem => ih part hmem (h.of_mem_parts hmem)
    apply Commentless.of_bracketed (fun p => rfl)
    refine (ensures_outcomeQuery hparts).bind ?_
    intro texts htexts
    exact .pure (not_hasComment_queryText htexts)
  | setOperation op left right ihleft ihright =>
    have hleft := ihleft (h.of_mem_parts List.mem_cons_self)
    have hright := ihright (h.of_mem_parts (List.mem_cons_of_mem _ List.mem_cons_self))
    have hkeyword : ¬HasComment op.keyword := by
      cases op <;> exact not_hasComment_of_notMem (by simp [SetOp.keyword])
    apply Commentless.of_bracketed (fun p => rfl)
    refine (hleft _).joined (hright _) ?_
    intro leftText rightText hleftText hrightText
    exact not_hasComment_infixText hleftText hkeyword hrightText
  | foreign kind precedence value? children ih =>
    exact commentless_of_isLeaf hplaceholder hnull (isLeaf_foreign precedence value?)

end Node

namespace Compiler

/--
What the standard compiler makes of an expression without comments in its names, symbols and
keywords has no comments either, in every state and for every demand.
-/
theorem compiles_without_comments (d : Dialect) (hplaceholder : ¬HasComment d.placeholder)
    (hnull : ¬HasComment d.nullKeyword) {node : Node}
    (hnode : node.Everywhere fun part => ∀ word ∈ part.words, ¬HasComment word) (p : Precedence)
    (s : State) :
    ∃ result s', (standard.withDialect d).Compiles node p s (result, s') ∧
      ∀ text, result = .ok text → ¬HasComment text := by
  refine ⟨_, _, compiles_standard d node p s, ?_⟩
  intro text htext
  exact (Node.commentless_of_everywhere hplaceholder hnull hnode p).resultIn htext

/--
Negations of a column that is a minus sign itself, compared with null.
-/
theorem compiles_without_comments_signs :
    let d : Dialect := ⟨"signs", "-", "-NULL"⟩
    let node := Node.eq (.neg (.neg (.col "-"))) .null
    ¬HasComment d.placeholder ∧ ¬HasComment d.nullKeyword ∧
      (node.Everywhere fun part => ∀ word ∈ part.words, ¬HasComment word) ∧
      ¬HasComment "- - - IS -NULL" ∧
      (standard.withDialect d).Compiles node .clause .new (.ok "- - - IS -NULL", .new) := by
  intro d node
  have hplaceholder : ¬HasComment d.placeholder := by decide
  have hnull : ¬HasComment d.nullKeyword := by decide
  have hcolumn : (Node.col "-").Everywhere fun part => ∀ word ∈ part.words, ¬HasComment word :=
    .intro (by decide) nofun
  have hneg {operand : Node}
      (h : operand.Everywhere fun part => ∀ word ∈ part.words, ¬HasComment word) :
      operand.neg.Everywhere fun part => ∀ word ∈ part.words, ¬HasComment word :=
    .intro (List.forall_mem_singleton.2 (by decide)) (List.forall_mem_singleton.2 h)
  have hnode : node.Everywhere fun part => ∀ word ∈ part.words, ¬HasComment word := by
    apply Node.Everywhere.intro
    . exact List.forall_mem_singleton.2 (by decide)
    . refine List.forall_mem_cons.2 ⟨hneg (hneg hcolumn), List.forall_mem_singleton.2 ?_⟩
      exact .intro nofun nofun
  obtain ⟨result, s', hcompiles, hresult⟩ :=
    compiles_without_comments d hplaceholder hnull hnode .clause .new
  have hruns : (standard.withDialect d).Compiles node .clause .new
      (.ok "- - - IS -NULL", .new) := (compiles_standard_iff parameters_new).2 rfl
  cases hcompiles.unique hruns
  exact ⟨hplaceholder, hnull, hnode, hresult _ rfl, hruns⟩

end Compiler

end SqlExpr
