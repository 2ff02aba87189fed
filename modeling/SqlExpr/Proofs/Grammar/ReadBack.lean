import SqlExpr.Proofs.Grammar.Unambiguous
import SqlExpr.Proofs.Grammar.Written
import SqlExpr.Proofs.Outcome.Compiles

/-!
This module contains the proof that the standard compiler writes what an expression says
(`compile_reads_back`): the tokens of the text of a statement read as one phrase, and up to chains in
chains it is the phrase of the expression.

The induction is on the expression, with any demand on it: the text reads as a phrase that binds at
least as tightly as is demanded (`Says`).
-/

namespace SqlExpr

/--
Whether a text reads as a phrase, up to its canonical form, and binds at least as tightly as `p`.
-/
def Says (p : Precedence) (text : String) (t : Phrase) : Prop :=
  ∃ q t', p ≤ q ∧ Reads q (tokens text) t' ∧ t'.canonical = t.canonical

namespace Says

variable {p own : Precedence} {text : String} {t : Phrase}

theorem bracket (h : Says own text t) (hown : .loosest ≤ own) (hp : p ≤ .tightest) :
    Says p (Compiler.bracket own p text) t := by
  obtain ⟨q, t', hq, hreads, hcanonical⟩ := h
  unfold Compiler.bracket
  split
  . refine ⟨.tightest, t', hp, ?_, hcanonical⟩
    rw [tokens_bracketed]
    apply Reads.bracketed (Precedence.le_trans hown hq) hreads
  . next hlt =>
    have hle : p ≤ own := Precedence.not_lt.1 hlt
    exact ⟨q, t', Precedence.le_trans hle hq, hreads, hcanonical⟩

end Says

def SayAll (p : Precedence) (texts : List String) (ts : List Phrase) : Prop :=
  ∃ items : List Reading, items.map (·.tokens) = texts.map tokens ∧
    (items.map (·.phrase)).map Phrase.canonical = ts.map Phrase.canonical ∧
    ∀ item ∈ items, p ≤ item.precedence ∧ Reads item.precedence item.tokens item.phrase

namespace SayAll

theorem nil (p : Precedence) : SayAll p [] [] := ⟨[], rfl, rfl, nofun⟩

theorem cons {p : Precedence} {text : String} {texts : List String} {t : Phrase}
    {ts : List Phrase} (h : Says p text t) (hrest : SayAll p texts ts) :
    SayAll p (text :: texts) (t :: ts) := by
  obtain ⟨q, t', hq, hreads, hcanonical⟩ := h
  obtain ⟨items, htokens, hphrases, hitems⟩ := hrest
  refine ⟨⟨q, tokens text, t'⟩ :: items, ?_, ?_, ?_⟩
  . rw [List.map_cons, List.map_cons, htokens]
  . rw [List.map_cons, List.map_cons, List.map_cons, hphrases, hcanonical]
  . rw [List.forall_mem_cons]
    exact ⟨⟨hq, hreads⟩, hitems⟩

end SayAll

/-! Chains in chains. -/

namespace Phrase

theorem length_operandsAll {keyword : String} {ts : List Phrase}
    (h : ∀ t ∈ ts, t.canonical.operands keyword ≠ []) :
    ts.length ≤ (operandsAll keyword ts).length := by
  induction ts with
  | nil => apply Nat.zero_le
  | cons t ts ih =>
    rw [List.forall_mem_cons] at h
    have hpos := List.length_pos_iff.2 h.1
    have hrest := ih h.2
    simp only [operandsAll, List.length_append, List.length_cons]
    omega

theorem operands_ne_nil {t : Phrase}
    (h : ∀ keyword ts, t = .chained keyword ts → 2 ≤ ts.length) (keyword : String) :
    t.operands keyword ≠ [] := by
  intro heq
  cases t with
  | chained other ts =>
    simp only [operands] at heq
    split at heq
    . have := h other ts rfl
      simp [heq] at this
    . cases heq
  | _ => cases heq

theorem two_le_length_operandsAll {ts : List Phrase} (htwo : 2 ≤ ts.length)
    (h : ∀ t ∈ ts, ∀ keyword ts', t.canonical = .chained keyword ts' → 2 ≤ ts'.length)
    (keyword : String) : 2 ≤ (operandsAll keyword ts).length := by
  apply Nat.le_trans htwo
  apply length_operandsAll
  intro t hmem
  apply operands_ne_nil (h t hmem)

theorem ofOperands_of_two_le {keyword : String} {ts : List Phrase} (h : 2 ≤ ts.length) :
    ofOperands keyword ts = .chained keyword ts := by
  match ts with
  | [] => contradiction
  | [_] => contradiction
  | _ :: _ :: _ => rfl

theorem operands_chained (keyword : String) (ts : List Phrase) :
    (chained keyword ts).operands keyword = ts := by
  simp [operands]

theorem ofOperands_operands {t : Phrase}
    (h : ∀ keyword ts, t = .chained keyword ts → 2 ≤ ts.length) (keyword : String) :
    ofOperands keyword (t.operands keyword) = t := by
  cases t with
  | chained other ts =>
    simp only [operands]
    split
    . next heq =>
      rw [← heq]
      apply ofOperands_of_two_le (h other ts rfl)
    . rfl
  | _ => rfl

end Phrase

theorem Reads.two_le_length {p : Precedence} {toks : List Token} {t : Phrase} (h : Reads p toks t) :
    ∀ keyword ts, t.canonical = .chained keyword ts → 2 ≤ ts.length := by
  induction h with
  | bracketed _ _ ih => exact ih
  | @chained op items htwo _ _ ih =>
    have hlength : 2 ≤ (Phrase.operandsAll op.keyword (items.map (·.phrase))).length := by
      apply Phrase.two_le_length_operandsAll (by simpa using htwo)
      intro t hmem
      obtain ⟨item, hitem, heq⟩ := List.mem_map.1 hmem
      rw [← heq]
      apply ih item hitem
    intro keyword ts heq
    unfold Phrase.canonical at heq
    rw [Phrase.ofOperands_of_two_le hlength] at heq
    cases heq
    exact hlength
  | _ =>
    intro keyword ts heq
    unfold Phrase.canonical at heq
    cases heq

theorem Reads.eq_chained {op : ChainOp} {toks : List Token} {t : Phrase}
    (h : Reads op.kind.precedence toks t) :
    ∃ items : List Reading, 2 ≤ items.length ∧
      toks = [Token.mark op.mark].intercalate (items.map (·.tokens)) ∧
      t = .chained op.keyword (items.map (·.phrase)) ∧
      ∀ item ∈ items, op.kind.precedence < item.precedence ∧
        Reads item.precedence item.tokens item.phrase := by
  generalize hp : op.kind.precedence = p at h
  cases h with
  | @chained op' items htwo hitems h =>
    have hop : op = op' := by
      cases op <;> cases op' <;> first | rfl | exact absurd hp (by decide)
    rw [hop]
    exact ⟨items, htwo, rfl, rfl, fun item hmem => ⟨hitems item hmem, h item hmem⟩⟩
  | infixed op' => exact absurd hp.symm (op'.precedence_ne_chained op)
  | prefixed op' => exact absurd hp (by cases op <;> cases op' <;> decide)
  | _ => exact absurd hp (by cases op <;> decide)

theorem exists_parts {op : ChainOp} {item : Reading} (hle : op.kind.precedence ≤ item.precedence)
    (h : Reads item.precedence item.tokens item.phrase) :
    ∃ parts : List Reading, parts ≠ [] ∧
      [Token.mark op.mark].intercalate (parts.map (·.tokens)) = item.tokens ∧
      Phrase.operandsAll op.keyword (parts.map (·.phrase))
        = item.phrase.canonical.operands op.keyword ∧
      ∀ part ∈ parts, op.kind.precedence < part.precedence ∧
        Reads part.precedence part.tokens part.phrase := by
  -- What binds just as tightly as the chain is a chain of the same keyword, without brackets.
  rcases hle with hlt | heq
  . refine ⟨[item], by simp, by simp, ?_, ?_⟩
    . simp [Phrase.operandsAll]
    . intro part hmem
      rw [List.mem_singleton.1 hmem]
      exact ⟨hlt, h⟩
  . rw [← heq] at h
    obtain ⟨parts, htwo, htokens, hphrase, hparts⟩ := h.eq_chained
    refine ⟨parts, ?_, htokens.symm, ?_, hparts⟩
    . intro hnil
      rw [hnil] at htwo
      contradiction
    . have hlength : 2 ≤ (Phrase.operandsAll op.keyword (parts.map (·.phrase))).length := by
        apply Phrase.two_le_length_operandsAll (by simpa using htwo)
        intro t hmem
        obtain ⟨part, hpart, heq⟩ := List.mem_map.1 hmem
        rw [← heq]
        apply (hparts part hpart).2.two_le_length
      rw [hphrase, Phrase.canonical, Phrase.ofOperands_of_two_le hlength, Phrase.operands_chained]

theorem intercalate_append {α : Type} {separator : List α} {xs ys : List (List α)} (hxs : xs ≠ [])
    (hys : ys ≠ []) :
    separator.intercalate (xs ++ ys)
      =
    separator.intercalate xs ++ separator ++ separator.intercalate ys := by
  induction xs with
  | nil => contradiction
  | cons x xs ih =>
    cases xs with
    | nil => rw [List.singleton_append, List.intercalate_cons_of_ne_nil hys, List.intercalate_singleton]
    | cons x' xs =>
      rw [List.cons_append, List.intercalate_cons_of_ne_nil (by simp), ih (by simp)]
      rw [List.intercalate_cons_cons]
      simp only [List.append_assoc]

theorem exists_allParts {op : ChainOp} {items : List Reading} (hne : items ≠ [])
    (h : ∀ item ∈ items, op.kind.precedence ≤ item.precedence ∧
      Reads item.precedence item.tokens item.phrase) :
    ∃ parts : List Reading, parts ≠ [] ∧
      [Token.mark op.mark].intercalate (parts.map (·.tokens))
        = [Token.mark op.mark].intercalate (items.map (·.tokens)) ∧
      Phrase.operandsAll op.keyword (parts.map (·.phrase))
        = Phrase.operandsAll op.keyword (items.map (·.phrase)) ∧
      ∀ part ∈ parts, op.kind.precedence < part.precedence ∧
        Reads part.precedence part.tokens part.phrase := by
  induction items with
  | nil => contradiction
  | cons item items ih =>
    rw [List.forall_mem_cons] at h
    obtain ⟨parts, hparts, htokens, hoperands, hreads⟩ := exists_parts h.1.1 h.1.2
    by_cases hitems : items = []
    . rw [hitems]
      refine ⟨parts, hparts, ?_, ?_, hreads⟩
      . simpa using htokens
      . simpa [Phrase.operandsAll] using hoperands
    obtain ⟨others, hothers, htokens', hoperands', hreads'⟩ := ih hitems h.2
    refine ⟨parts ++ others, by simp [hparts], ?_, ?_, ?_⟩
    . rw [List.map_append, intercalate_append (by simpa using hparts) (by simpa using hothers)]
      rw [List.map_cons, List.intercalate_cons_of_ne_nil (by simpa using hitems)]
      rw [htokens, htokens']
    . rw [List.map_append, List.map_cons, Phrase.operandsAll, ← hoperands, ← hoperands']
      simp only [Phrase.operandsAll_eq_flatMap, List.map_append, List.flatMap_append]
    . intro part hmem
      cases List.mem_append.1 hmem with
      | inl hmem => exact hreads part hmem
      | inr hmem => exact hreads' part hmem

theorem SayAll.chained {op : ChainOp} {texts : List String} {ts : List Phrase} (hne : ts ≠ [])
    (h : SayAll op.kind.precedence texts ts) :
    Says op.kind.precedence ((" " ++ op.keyword ++ " ").intercalate texts)
      (.chained op.keyword ts) := by
  obtain ⟨items, htokens, hphrases, hitems⟩ := h
  have hitemsne : items ≠ [] := by
    intro hnil
    rw [hnil] at hphrases
    have := hphrases.symm
    simp [hne] at this
  obtain ⟨parts, hparts, htokens', hoperands, hreads⟩ := exists_allParts hitemsne hitems
  have hcanonical : (Phrase.chained op.keyword ts).canonical
      = .ofOperands op.keyword (Phrase.operandsAll op.keyword (parts.map (·.phrase))) := by
    rw [hoperands, Phrase.canonical]
    simp only [Phrase.operandsAll_eq_flatMap, hphrases]
  rw [htokens] at htokens'
  -- A chain of one operand has the text of this operand, and binds as tightly as it does.
  cases parts with
  | nil => contradiction
  | cons part parts =>
    cases parts with
    | nil =>
      obtain ⟨hlt, hpart⟩ := hreads part List.mem_cons_self
      refine ⟨part.precedence, part.phrase, Precedence.le_of_lt hlt, ?_, ?_⟩
      . rw [tokens_chainText, ← htokens']
        simpa using hpart
      . rw [hcanonical]
        simp only [List.map_cons, List.map_nil, Phrase.operandsAll, List.append_nil]
        rw [Phrase.ofOperands_operands hpart.two_le_length]
    | cons second parts =>
      refine ⟨op.kind.precedence, .chained op.keyword ((part :: second :: parts).map (·.phrase)),
        Precedence.le_refl _, ?_, ?_⟩
      . rw [tokens_chainText, ← htokens']
        apply Reads.chained op (by simp) (fun part hmem => (hreads part hmem).1)
        intro part hmem
        exact (hreads part hmem).2
      . rw [hcanonical, Phrase.canonical]

/-! What the outcomes of expressions say. -/

namespace Outcome

variable {α β : Type}

def Gives (P : α → Prop) (o : Outcome α) : Prop :=
  ∃ a vs, o = ⟨.ok a, vs⟩ ∧ P a

theorem Gives.pure {P : α → Prop} {a : α} (h : P a) : Gives P (Pure.pure a) := ⟨a, [], rfl, h⟩

theorem Gives.bind {P : α → Prop} {Q : β → Prop} {o : Outcome α} {f : α → Outcome β}
    (h : Gives P o) (hf : ∀ a, P a → Gives Q (f a)) : Gives Q (o >>= f) := by
  obtain ⟨a, us, ho, ha⟩ := h
  obtain ⟨b, vs, hb, hQ⟩ := hf a ha
  refine ⟨b, us ++ vs, ?_, hQ⟩
  rw [ho, ok_bind, hb]

theorem Gives.bracketed {own p : Precedence} {o : Outcome String} {t : Phrase}
    (h : Gives (Says own · t) o) (hown : .loosest ≤ own) (hp : p ≤ .tightest) :
    Gives (Says p · t) (o.bracketed own p) := by
  apply h.bind
  intro text htext
  exact .pure (htext.bracket hown hp)

end Outcome

namespace Node

/--
Whether the text of an expression says what the expression says, whatever is demanded.
-/
def ReadsBack (node : Node) : Prop :=
  ∀ p ≤ Precedence.tightest, Outcome.Gives (Says p · node.phrase) (node.outcome .generic p)

theorem readsBack_literal (x : Literal) : ReadsBack (.literal x) := by
  intro p hp
  cases hnull : x.toValue.isNull with
  | true =>
    have hsays : Says .tightest "NULL" .null :=
      ⟨_, _, Precedence.le_refl _, (tokens_mark .null).symm ▸ .null, rfl⟩
    rw [outcome_literal_of_isNull hnull, phrase, if_pos hnull]
    exact .bracketed (.pure hsays) (by decide) hp
  | false =>
    have hsays : Says .tightest "?" .placeholder :=
      ⟨_, _, Precedence.le_refl _, (tokens_mark .placeholder).symm ▸ .placeholder, rfl⟩
    rw [outcome_literal_of_not_isNull hnull, phrase, if_neg (by simp [hnull])]
    exact .bracketed ⟨"?", _, rfl, hsays⟩ (by decide) hp

theorem readsBack_name {name : String} (h : Identifier name) :
    Says .tightest name (.name none name) := by
  refine ⟨_, _, Precedence.le_refl _, ?_, rfl⟩
  rw [tokens_name h]
  exact .name name

theorem readsBack_unary (op : UnaryOp) {operand : Node} (h : ReadsBack operand) :
    ReadsBack (.unaryOp op operand) := by
  intro p hp
  have hservice : op.kind.service? = some .unary := by cases op <;> rfl
  have hlow : .loosest ≤ op.kind.precedence := by cases op <;> decide
  have htight : op.kind.precedence ≤ .tightest := by cases op <;> decide
  unfold unaryOp outcome phrase
  rw [if_pos hservice]
  apply Outcome.Gives.bracketed _ hlow hp
  apply (h _ htight).bind
  intro text htext
  obtain ⟨q, t', hq, hreads, hcanonical⟩ := htext
  apply Outcome.Gives.pure
  refine ⟨op.kind.precedence, .prefixed op.symbol t', Precedence.le_refl _, ?_, ?_⟩
  . rw [tokens_prefixText]
    exact .prefixed op hq hreads
  . simp only [Phrase.canonical, hcanonical]

theorem readsBack_joined (op : Infix) {left right : Node} (hleft : ReadsBack left)
    (hright : ReadsBack right) {p p' : Precedence} (hp : p ≤ .tightest) (hp' : p' ≤ .tightest)
    (hallows : op.precedence.AllowsLeft p) (hlt : op.precedence < p') :
    Outcome.Gives (Says op.precedence · (.infixed op.symbol left.phrase right.phrase))
      (.joined op.symbol (left.outcome .generic p) (right.outcome .generic p')) := by
  apply (hleft p hp).bind
  intro leftText hleft
  apply (hright p' hp').bind
  intro rightText hright
  obtain ⟨q, t, hq, hreads, hcanonical⟩ := hleft
  obtain ⟨q', t', hq', hreads', hcanonical'⟩ := hright
  apply Outcome.Gives.pure
  refine ⟨op.precedence, .infixed op.symbol t t', Precedence.le_refl _, ?_, ?_⟩
  . rw [tokens_infixText]
    exact .infixed op (hallows.mono hq) (Precedence.lt_of_lt_of_le hlt hq') hreads hreads'
  . simp only [Phrase.canonical, hcanonical, hcanonical']

theorem readsBack_setOperation (op : SetOp) {left right : Node} (hleft : ReadsBack left)
    (hright : ReadsBack right) : ReadsBack (.setOperation op left right) := by
  intro p hp
  have hlow := (Infix.setOperation op).loosest_le
  have hallows : op.kind.precedence.AllowsLeft op.kind.precedence := by
    cases op <;> exact Precedence.le_refl _
  have hlt : op.kind.precedence < op.kind.precedence.nextTighter := by
    apply Precedence.lt_nextTighter
    cases op <;> decide
  unfold outcome phrase
  apply Outcome.Gives.bracketed _ hlow hp
  apply readsBack_joined (.setOperation op) hleft hright _ _ hallows hlt
  . cases op <;> decide
  . cases op <;> decide

def writtenOp (op : BinaryOp) (right : Node) : BinaryOp :=
  if right.isNullLiteral then
    match op with
    | .equal => .is
    | .notEqual => .isNot
    | op => op
  else
    op

theorem writtenSymbol_eq (op : BinaryOp) (right : Node) :
    writtenSymbol op.symbol right = (writtenOp op right).symbol := by
  unfold writtenSymbol writtenOp
  split
  . cases op <;> rfl
  . rfl

theorem isA_null_literal (x : Literal) :
    (literal x).kind.isA Kind.Standard.null = (literal x).isNullLiteral := by
  cases hnull : x.toValue.isNull with
  | true =>
    have hkind : (Node.literal x).kind = Kind.Standard.null := Literal.kind_of_isNull hnull
    rw [hkind, isNullLiteral, hnull]
    rfl
  | false =>
    obtain ⟨_, _, hisA⟩ := Literal.kind_of_not_isNull hnull
    rw [isNullLiteral, hnull]
    exact hisA

theorem BuiltIn.isA_null {node : Node} (h : node.BuiltIn) :
    node.kind.isA Kind.Standard.null = node.isNullLiteral := by
  cases h with
  | literal x => apply isA_null_literal
  | unary op => cases op <;> rfl
  | binary op => cases op <;> rfl
  | chain op => cases op <;> rfl
  | setOperation op => cases op <;> rfl
  | call hkind =>
    simp only [List.mem_cons, List.not_mem_nil, or_false] at hkind
    rcases hkind with rfl | rfl | rfl | rfl | rfl <;> rfl
  | _ => rfl

theorem spelling?_eq (op : BinaryOp) {right : Node}
    (h : right.kind.isA Kind.Standard.null = right.isNullLiteral) :
    spelling? op.kind op.symbol right
      =
    some ((writtenOp op right).kind.precedence, (writtenOp op right).symbol) := by
  unfold spelling? writtenOp
  rw [h]
  cases right.isNullLiteral <;> cases op <;> rfl

theorem readsBack_binary (op : BinaryOp) {left right : Node}
    (hnull : right.kind.isA Kind.Standard.null = right.isNullLiteral) (hleft : ReadsBack left)
    (hright : ReadsBack right) : ReadsBack (.binaryOp op left right) := by
  intro p hp
  -- The demands on the operands come from the operator that is written.
  generalize hop : writtenOp op right = op'
  have hlow := (Infix.operator op').loosest_le
  have hright' : op'.kind.precedence.associativity ≠ .right := by cases op' <;> decide
  have hallows : op'.kind.precedence.AllowsLeft
      (Handler.operandDemands op'.kind.precedence).1 := by
    cases op' <;>
      first | exact Precedence.le_refl _ | exact Precedence.lt_nextTighter (by decide)
  have hlt : op'.kind.precedence < (Handler.operandDemands op'.kind.precedence).2 := by
    cases op' <;> exact Precedence.lt_nextTighter (by decide)
  unfold binaryOp outcome phrase
  rw [spelling?_eq op hnull, writtenSymbol_eq, hop]
  apply Outcome.Gives.bracketed _ hlow hp
  apply readsBack_joined (.operator op') hleft hright _ _ hallows hlt
  . cases op' <;> decide
  . cases op' <;> decide

theorem sayAll_of_readsBack {nodes : List Node} (h : ∀ node ∈ nodes, ReadsBack node)
    {p : Precedence} (hp : p ≤ .tightest) :
    Outcome.Gives (SayAll p · (phraseAll nodes)) (outcomeAll .generic nodes p) := by
  induction nodes with
  | nil => exact .pure (.nil p)
  | cons node nodes ih =>
    rw [List.forall_mem_cons] at h
    unfold outcomeAll phraseAll
    apply (h.1 p hp).bind
    intro text hfirst
    apply (ih h.2).bind
    intro texts hrest
    exact .pure (SayAll.cons hfirst hrest)

theorem readsBack_chain (op : ChainOp) {first : Node} {rest : List Node}
    (h : ∀ node ∈ first :: rest, ReadsBack node) :
    ReadsBack (.chain op.kind op.keyword first rest) := by
  intro p hp
  have hservice : op.kind.service? = some .chain := by cases op <;> rfl
  have hlow : .loosest ≤ op.kind.precedence := by cases op <;> decide
  have htight : op.kind.precedence ≤ .tightest := by cases op <;> decide
  rw [outcome_chain hservice, phrase]
  apply Outcome.Gives.bracketed _ hlow hp
  apply (sayAll_of_readsBack h htight).bind
  intro texts htexts
  apply Outcome.Gives.pure
  apply htexts.chained
  unfold phraseAll
  simp

theorem readsBack_call {kind : Kind} {name : String} {args : List Node}
    (hkind : kind ∈ [Kind.Standard.function, Kind.Standard.min, Kind.Standard.max,
      Kind.Standard.sqrt, Kind.Standard.power])
    (hname : Identifier name) (h : ∀ node ∈ args, ReadsBack node) :
    ReadsBack (.call kind name args) := by
  intro p hp
  have hservice : kind.service? = some .call ∧ kind.precedence = .tightest := by
    simp only [List.mem_cons, List.not_mem_nil, or_false] at hkind
    rcases hkind with rfl | rfl | rfl | rfl | rfl <;> exact ⟨rfl, rfl⟩
  unfold outcome phrase
  rw [if_pos hservice.1, hservice.2]
  apply Outcome.Gives.bracketed _ (by decide) hp
  apply (sayAll_of_readsBack h (p := .clause) (by decide)).bind
  intro texts htexts
  obtain ⟨items, htokens, hphrases, hitems⟩ := htexts
  apply Outcome.Gives.pure
  refine ⟨.tightest, .call name (items.map (·.phrase)), Precedence.le_refl _, ?_, ?_⟩
  . rw [tokens_callText hname, tokens_listText, ← htokens]
    apply Reads.call name
    . intro item hmem
      apply Precedence.query_lt_iff.2 (hitems item hmem).1
    . intro item hmem
      exact (hitems item hmem).2
  . simp only [Phrase.canonical, Phrase.canonicalAll_eq_map, hphrases]

theorem sayOption_of_readsBack {node? : Option Node} (h : ∀ node ∈ node?, ReadsBack node) :
    Outcome.Gives (fun text? => ∃ item? : Option Reading,
      item?.map (·.tokens) = text?.map tokens ∧
      (item?.map (·.phrase)).map Phrase.canonical = (phraseOption node?).map Phrase.canonical ∧
      ∀ item ∈ item?, .clause ≤ item.precedence ∧ Reads item.precedence item.tokens item.phrase)
      (outcomeOption .generic node?) := by
  cases node? with
  | none => exact .pure ⟨none, rfl, rfl, nofun⟩
  | some node =>
    unfold outcomeOption
    apply (h node rfl .clause (by decide)).bind
    intro text htext
    obtain ⟨q, t, hq, hreads, hcanonical⟩ := htext
    apply Outcome.Gives.pure
    refine ⟨some ⟨q, tokens text, t⟩, rfl, congrArg some hcanonical, ?_⟩
    intro item hmem
    cases hmem
    exact ⟨hq, hreads⟩

theorem canonicalQuery_eq_map (q : Query Phrase) :
    Phrase.canonicalQuery q = q.map Phrase.canonical := by
  obtain ⟨distinct, columns, sources, filter, groups, groupFilter, order, limit, offset⟩ := q
  have hoption (t? : Option Phrase) : Phrase.canonicalOption t? = t?.map Phrase.canonical := by
    cases t? <;> rfl
  simp only [Phrase.canonicalQuery, Query.map, Phrase.canonicalAll_eq_map, hoption]

theorem readsBack_select {q : Query Node} (h : ∀ node ∈ q.parts, ReadsBack node) :
    ReadsBack (.select q) := by
  obtain ⟨distinct, columns, sources, filter, groups, groupFilter, order, limit, offset⟩ := q
  rw [Query.forall_mem_parts] at h
  obtain ⟨hcolumns, hsources, hfilter, hgroups, hgroupFilter, horder⟩ := h
  have hclause : Precedence.clause ≤ .tightest := by decide
  intro p hp
  unfold outcome outcomeQuery
  apply Outcome.Gives.bracketed _ (by decide) hp
  simp only [bind_assoc, pure_bind]
  apply (sayAll_of_readsBack hcolumns hclause).bind
  rintro columnTexts ⟨columns', tcolumns, ccolumns, hcolumns⟩
  apply (sayAll_of_readsBack hsources hclause).bind
  rintro sourceTexts ⟨sources', tsources, csources, hsources⟩
  apply (sayOption_of_readsBack hfilter).bind
  rintro filterText ⟨filter', tfilter, cfilter, hfilter⟩
  apply (sayAll_of_readsBack hgroups hclause).bind
  rintro groupTexts ⟨groups', tgroups, cgroups, hgroups⟩
  apply (sayOption_of_readsBack hgroupFilter).bind
  rintro groupFilterText ⟨groupFilter', tgroupFilter, cgroupFilter, hgroupFilter⟩
  apply (sayAll_of_readsBack horder hclause).bind
  rintro orderTexts ⟨order', torder, corder, horder⟩
  apply Outcome.Gives.pure
  let q' : Query Reading := ⟨distinct, columns', sources', filter', groups', groupFilter', order',
    limit, offset⟩
  have hparts : ∀ part ∈ q'.parts, .clause ≤ part.precedence ∧
      Reads part.precedence part.tokens part.phrase := by
    rw [Query.forall_mem_parts]
    exact ⟨hcolumns, hsources, hfilter, hgroups, hgroupFilter, horder⟩
  refine ⟨.query, .select (q'.map (·.phrase)), Precedence.le_refl _, ?_, ?_⟩
  . rw [tokens_queryText]
    have htokens : Query.map tokens ⟨distinct, columnTexts, sourceTexts, filterText, groupTexts,
        groupFilterText, orderTexts, limit, offset⟩ = q'.map (·.tokens) := by
      simp only [Query.map, q', tcolumns, tsources, tfilter, tgroups, tgroupFilter, torder]
    rw [htokens]
    apply Reads.select
    . intro part hmem
      apply Precedence.query_lt_iff.2 (hparts part hmem).1
    . intro part hmem
      exact (hparts part hmem).2
  . simp only [phrase, Phrase.canonical, canonicalQuery_eq_map, phraseQuery, Query.map, q',
      ccolumns, csources, cfilter, cgroups, cgroupFilter, corder]

theorem BuiltIn.readsBack {node : Node} (h : node.BuiltIn) : ReadsBack node := by
  -- Every demand is in the induction hypothesis, since operators demand different things.
  induction h with
  | literal x => apply readsBack_literal
  | unary op _ ih => apply readsBack_unary op ih
  | binary op _ hright ihleft ihright => apply readsBack_binary op hright.isA_null ihleft ihright
  | chain op _ ih => apply readsBack_chain op ih
  | call hkind hname _ ih => apply readsBack_call hkind hname ih
  | table hname =>
    intro p hp
    unfold outcome phrase
    exact .bracketed (.pure (readsBack_name hname)) (by decide) hp
  | @column table? name htable hname =>
    intro p hp
    unfold outcome phrase
    apply Outcome.Gives.bracketed (.pure _) (by decide) hp
    cases table? with
    | none => exact readsBack_name hname
    | some table =>
      refine ⟨_, _, Precedence.le_refl _, ?_, rfl⟩
      unfold columnText
      rw [tokens_columnText (htable table rfl) hname]
      exact .qualified table name
  | select _ ih => apply readsBack_select ih
  | setOperation op _ _ ihleft ihright => apply readsBack_setOperation op ihleft ihright

end Node

/--
A statement of built-in nodes compiles, and its text reads as one phrase and no other. This phrase is
what the expression says, but for chains that are operands of a chain of the same keyword, and chains
of one operand.
-/
theorem compile_reads_back {node : Node} (h : node.BuiltIn) :
    ∃ text vs t, compile node = .ok (text, vs) ∧ t.canonical = node.phrase.canonical ∧
      ∀ t', (∃ p, .loosest ≤ p ∧ Reads p (tokens text) t') ↔ t' = t := by
  obtain ⟨text, vs, hout, q, t, hq, hreads, hcanonical⟩ := h.readsBack .loosest (by decide)
  refine ⟨text, vs, t, ?_, hcanonical, ?_⟩
  . rw [compile_eq_outcome, hout]
    rfl
  . intro t'
    constructor
    . intro h'
      obtain ⟨p, _, hreads'⟩ := h'
      apply hreads'.unique hreads
    . intro heq
      rw [heq]
      exact ⟨q, hq, hreads⟩

/--
A negated comparison and a comparison with null, in a chain with another chain.
-/
theorem compile_reads_back_chain :
    let test := Node.binaryOp .equal (.column none "a") .null
    let node := Node.pair .and (.unaryOp .not (.scalar (.bool true))) (.pair .and test test)
    ∃ t, t.canonical = node.phrase.canonical ∧ ∀ t', (∃ p, .loosest ≤ p ∧
      Reads p (tokens "NOT ? AND a IS NULL AND a IS NULL") t') ↔ t' = t := by
  intro test node
  have ha : Identifier "a" := by decide +kernel
  have htest : test.BuiltIn := .binary .equal (.column nofun ha) (.literal _)
  have hpair : (Node.pair .and test test).BuiltIn := .chain .and (by simp [htest])
  have hnot : (Node.unaryOp .not (.scalar (.bool true))).BuiltIn := .unary .not (.literal _)
  have hnode : node.BuiltIn := .chain .and (by simp [hnot, hpair])
  have hcompile : (compile node).toOption.map Prod.fst = some "NOT ? AND a IS NULL AND a IS NULL" := by
    decide +kernel
  obtain ⟨text, vs, t, htext, hcanonical, hunique⟩ := compile_reads_back hnode
  rw [htext] at hcompile
  cases hcompile
  exact ⟨t, hcanonical, hunique⟩

end SqlExpr
