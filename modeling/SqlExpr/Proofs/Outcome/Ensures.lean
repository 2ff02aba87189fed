import SqlExpr.Proofs.Outcome.Run

/-!
This module contains properties of results (`Outcome.Ensures`): an error has them all. A property of
the text of every part holds of all texts that a node is written from.
-/

namespace SqlExpr

namespace Outcome

variable {α β : Type}

/--
Whether an outcome that is a result is one with a property.
-/
def Ensures (P : α → Prop) (o : Outcome α) : Prop :=
  ∀ a vs, o = ⟨.ok a, vs⟩ → P a

theorem Ensures.pure {P : α → Prop} {a : α} (h : P a) : Ensures P (Pure.pure a) := by
  intro b vs heq
  cases heq
  exact h

theorem Ensures.bind {P : α → Prop} {Q : β → Prop} {o : Outcome α} {f : α → Outcome β}
    (h : Ensures P o) (hf : ∀ a, P a → Ensures Q (f a)) : Ensures Q (o >>= f) := by
  intro b ws heq
  obtain ⟨a, us, vs, ho, hb, _⟩ := bind_eq_ok heq
  exact hf a (h a us ho) b vs hb

theorem Ensures.joined {P Q R : String → Prop} {left right : Outcome String} {written : String}
    (hleft : Ensures P left) (hright : Ensures Q right)
    (h : ∀ leftText rightText, P leftText → Q rightText →
      R (Handler.infixText leftText written rightText)) :
    Ensures R (.joined written left right) := by
  refine hleft.bind ?_
  intro leftText hleftText
  refine hright.bind ?_
  intro rightText hrightText
  exact .pure (h leftText rightText hleftText hrightText)

theorem Ensures.resultIn {P : α → Prop} {o : Outcome α} (h : Ensures P o) {s : State} {a : α}
    (heq : o.resultIn s = .ok a) : P a := by
  have hresult : o.result = .ok a := by
    unfold Outcome.resultIn at heq
    split at heq
    . exact heq
    . split at heq
      . exact heq
      . cases heq
  obtain ⟨result, vs⟩ := o
  cases hresult
  exact h a vs rfl

end Outcome

namespace Node

variable {d : Dialect} {P : String → Prop}

theorem ensures_outcomeAll {nodes : List Node}
    (h : ∀ node ∈ nodes, ∀ p, Outcome.Ensures P (node.outcome d p)) (p : Precedence) :
    Outcome.Ensures (fun texts => ∀ text ∈ texts, P text) (outcomeAll d nodes p) := by
  induction nodes with
  | nil =>
    refine .pure ?_
    nofun
  | cons node nodes ih =>
    rw [List.forall_mem_cons] at h
    unfold outcomeAll
    refine (h.1 p).bind ?_
    intro text htext
    refine (ih h.2).bind ?_
    intro texts htexts
    refine .pure ?_
    exact List.forall_mem_cons.2 ⟨htext, htexts⟩

theorem ensures_outcomeOption {node? : Option Node}
    (h : ∀ node ∈ node?, ∀ p, Outcome.Ensures P (node.outcome d p)) :
    Outcome.Ensures (fun text? => ∀ text ∈ text?, P text) (outcomeOption d node?) := by
  cases node? with
  | none =>
    refine .pure ?_
    nofun
  | some node =>
    refine (h node rfl .clause).bind ?_
    intro text htext
    refine .pure ?_
    intro text' hmem
    cases hmem
    exact htext

theorem ensures_outcomeQuery {q : Query Node}
    (h : ∀ node ∈ q.parts, ∀ p, Outcome.Ensures P (node.outcome d p)) :
    Outcome.Ensures (fun texts => ∀ text ∈ texts.parts, P text) (outcomeQuery d q) := by
  obtain ⟨hcolumns, hsources, hfilter, hgroups, hgroupFilter, horder⟩ := Query.forall_mem_parts.1 h
  obtain ⟨distinct, columns, sources, filter, groups, groupFilter, order, limit, offset⟩ := q
  unfold outcomeQuery
  refine (ensures_outcomeAll hcolumns .clause).bind ?_
  intro columns hcolumns
  refine (ensures_outcomeAll hsources .clause).bind ?_
  intro sources hsources
  refine (ensures_outcomeOption hfilter).bind ?_
  intro filter hfilter
  refine (ensures_outcomeAll hgroups .clause).bind ?_
  intro groups hgroups
  refine (ensures_outcomeOption hgroupFilter).bind ?_
  intro groupFilter hgroupFilter
  refine (ensures_outcomeAll horder .clause).bind ?_
  intro order horder
  refine .pure ?_
  exact Query.forall_mem_parts.2 ⟨hcolumns, hsources, hfilter, hgroups, hgroupFilter, horder⟩

end Node

end SqlExpr
