import SqlExpr.Proofs.AnyState
import SqlExpr.Proofs.Node.Blank

/-!
This module contains the proof that values do not influence what is compiled
(`Compiler.compiles_alike`). An expression has the same text or the same error as its blank, which has
no values left to look at, and binds as many values (`Node.alike_blank`).
-/

namespace SqlExpr

namespace Outcome

variable {α β : Type} {o o' o'' : Outcome α}

/--
Whether two outcomes differ in nothing but what their values are.
-/
structure Alike (o o' : Outcome α) : Prop where
  result : o.result = o'.result
  length : o.values.length = o'.values.length

theorem Alike.refl (o : Outcome α) : o.Alike o := ⟨rfl, rfl⟩

theorem Alike.symm (h : o.Alike o') : o'.Alike o := ⟨h.result.symm, h.length.symm⟩

theorem Alike.trans (h : o.Alike o') (h' : o'.Alike o'') : o.Alike o'' :=
  ⟨h.result.trans h'.result, h.length.trans h'.length⟩

theorem Alike.bind {f f' : α → Outcome β} (h : o.Alike o') (hf : ∀ a, (f a).Alike (f' a)) :
    (o >>= f).Alike (o' >>= f') := by
  obtain ⟨result, vs⟩ := o
  obtain ⟨result', vs'⟩ := o'
  obtain ⟨hresult, hlength⟩ := h
  cases hresult
  cases result with
  | error e => exact ⟨rfl, hlength⟩
  | ok a =>
    constructor
    . exact (hf a).result
    . simp only [ok_bind, List.length_append]
      rw [hlength, (hf a).length]

theorem Alike.map (h : o.Alike o') (f : α → β) :
    (o >>= fun a => pure (f a)).Alike (o' >>= fun a => pure (f a)) :=
  h.bind fun _ => .refl _

theorem Alike.joined {left left' right right' : Outcome String} (hleft : left.Alike left')
    (hright : right.Alike right') (written : String) :
    (Outcome.joined written left right).Alike (.joined written left' right') :=
  hleft.bind fun _ => hright.map _

end Outcome

namespace Node

variable {d : Dialect}

theorem isA_null_blank (node : Node) :
    node.blank.kind.isA Kind.Standard.null = node.kind.isA Kind.Standard.null := by
  cases node with
  | literal x =>
    unfold blank Literal.blank
    cases h : x.toValue.isNull with
    | true =>
      have hkind := Literal.kind_of_isNull h
      simp only [kind, hkind]
      rfl
    | false => exact (Literal.kind_of_not_isNull h).2.2.symm
  | _ =>
    unfold blank
    rfl

theorem spelling?_blank (kind : Kind) (symbol : String) (right : Node) :
    spelling? kind symbol right.blank = spelling? kind symbol right := by
  unfold spelling?
  rw [isA_null_blank]

theorem alike_leaf {node node' : Node} (hvalue : node.value?.isSome = node'.value?.isSome)
    (hkind : node.kind = node'.kind) (hprecedence : node.precedence = node'.precedence)
    (p : Precedence) : (leafOutcome d node p).Alike (leafOutcome d node' p) := by
  unfold leafOutcome mismatch
  rw [hkind, hprecedence]
  split
  . apply Outcome.Alike.refl
  . apply Outcome.Alike.refl
  . cases hv : node.value? with
    | none =>
      cases hv' : node'.value? with
      | none => apply Outcome.Alike.refl
      | some v' => simp [hv, hv'] at hvalue
    | some v =>
      cases hv' : node'.value? with
      | none => simp [hv, hv'] at hvalue
      | some v' =>
        apply Outcome.Alike.map
        exact ⟨rfl, rfl⟩
  . apply Outcome.Alike.refl

theorem alike_literal (x : Literal) (p : Precedence) :
    ((literal x).outcome d p).Alike ((literal x.blank).outcome d p) := by
  unfold Literal.blank
  cases h : x.toValue.isNull with
  | true =>
    rw [outcome_literal_of_isNull h, if_pos rfl, outcome_literal_of_isNull rfl]
    apply Outcome.Alike.refl
  | false =>
    -- The kinds may differ, but both are kinds of values that bind tightest.
    rw [outcome_literal_of_not_isNull h, if_neg (by decide), outcome_literal_of_not_isNull rfl]
    apply Outcome.Alike.map
    exact ⟨rfl, rfl⟩

theorem alike_all {nodes : List Node}
    (h : ∀ node ∈ nodes, ∀ p, (node.outcome d p).Alike (node.blank.outcome d p)) (p : Precedence) :
    (outcomeAll d nodes p).Alike (outcomeAll d (blankAll nodes) p) := by
  induction nodes with
  | nil => apply Outcome.Alike.refl
  | cons node nodes ih =>
    rw [List.forall_mem_cons] at h
    unfold blankAll outcomeAll
    apply (h.1 p).bind
    intro text
    apply (ih h.2).map

theorem alike_option {node? : Option Node}
    (h : ∀ node ∈ node?, ∀ p, (node.outcome d p).Alike (node.blank.outcome d p)) :
    (outcomeOption d node?).Alike (outcomeOption d (blankOption node?)) := by
  cases node? with
  | none => apply Outcome.Alike.refl
  | some node => apply (h node rfl .clause).map

theorem alike_query {q : Query Node}
    (h : ∀ node ∈ q.parts, ∀ p, (node.outcome d p).Alike (node.blank.outcome d p)) :
    (outcomeQuery d q).Alike (outcomeQuery d (blankQuery q)) := by
  obtain ⟨distinct, columns, sources, filter, groups, groupFilter, order, limit, offset⟩ := q
  rw [Query.forall_mem_parts] at h
  obtain ⟨hcolumns, hsources, hfilter, hgroups, hgroupFilter, horder⟩ := h
  unfold blankQuery outcomeQuery
  apply (alike_all hcolumns .clause).bind
  intro columns
  apply (alike_all hsources .clause).bind
  intro sources
  apply (alike_option hfilter).bind
  intro filter
  apply (alike_all hgroups .clause).bind
  intro groups
  apply (alike_option hgroupFilter).bind
  intro groupFilter
  apply (alike_all horder .clause).map

theorem alike_blank (node : Node) (p : Precedence) :
    (node.outcome d p).Alike (node.blank.outcome d p) := by
  induction node generalizing p with
  | literal x => apply alike_literal
  | unary kind symbol operand ih =>
    unfold blank outcome
    split
    . apply Outcome.Alike.map
      apply (ih kind.precedence).map
    . apply alike_leaf rfl rfl rfl
  | binary kind symbol left right ihleft ihright =>
    unfold blank outcome
    rw [spelling?_blank]
    split
    . apply Outcome.Alike.map
      apply (ihleft _).joined (ihright _)
    . apply alike_leaf rfl rfl rfl
  | chain kind keyword first rest ih =>
    unfold blank
    by_cases hservice : kind.service? = some .chain
    . rw [outcome_chain hservice, outcome_chain hservice]
      apply Outcome.Alike.map
      apply (alike_all ih kind.precedence).map
    . unfold outcome
      rw [if_neg hservice, if_neg hservice]
      apply alike_leaf rfl rfl rfl
  | call kind name args ih =>
    unfold blank outcome
    split
    . apply Outcome.Alike.map
      apply (alike_all ih .clause).map
    . apply alike_leaf rfl rfl rfl
  | table name => apply Outcome.Alike.refl
  | column table? name => apply Outcome.Alike.refl
  | select q ih =>
    unfold blank outcome
    apply Outcome.Alike.map
    apply (alike_query ih).map
  | setOperation op left right ihleft ihright =>
    unfold blank outcome
    apply Outcome.Alike.map
    apply (ihleft _).joined (ihright _)
  | foreign kind precedence value? children ih =>
    unfold blank outcome
    apply alike_leaf
    . cases value? <;> rfl
    . rfl
    . rfl

theorem alike_of_blank_eq {node node' : Node} (h : node.blank = node'.blank) (p : Precedence) :
    (node.outcome d p).Alike (node'.outcome d p) := by
  have hnode := alike_blank (d := d) node p
  rw [h] at hnode
  apply hnode.trans (alike_blank node' p).symm

end Node

/--
Whether two frames bind the same names to the same attributes, but for the values under
`parameters`.
-/
structure Frame.Alike (frame frame' : Frame) : Prop where
  get? : ∀ name, name ≠ Attribute.parametersName → frame.get? name = frame'.get? name
  shape : (frame.get? Attribute.parametersName).map Attribute.shape
    = (frame'.get? Attribute.parametersName).map Attribute.shape

theorem Frame.Alike.isSome {frame frame' : Frame} (h : Frame.Alike frame frame') :
    (frame.get? Attribute.parametersName).isSome
      =
    (frame'.get? Attribute.parametersName).isSome := by
  rw [← Option.isSome_map (f := Attribute.shape), h.shape, Option.isSome_map]

theorem Frame.Alike.insert {frame frame' : Frame} (h : Frame.Alike frame frame')
    (vs vs' : List Value) :
    Frame.Alike (frame.insert Attribute.parametersName (.values vs))
      (frame'.insert Attribute.parametersName (.values vs')) := by
  constructor
  . intro name hname
    rw [NameMap.get?_insert_of_ne _ hname, NameMap.get?_insert_of_ne _ hname, h.get? name hname]
  . rw [NameMap.get?_insert_self, NameMap.get?_insert_self]
    rfl

namespace State

/--
Whether two states are the same, frame by frame, but for the values under `parameters`.
-/
inductive Alike : State → State → Prop where
  | root {frame frame' : Frame} (hframe : Frame.Alike frame frame') :
    Alike (.root frame) (.root frame')
  | inner {frame frame' : Frame} {outer outer' : State} (hframe : Frame.Alike frame frame')
    (houter : Alike outer outer') : Alike (.inner frame outer) (.inner frame' outer')

variable {s s' : State}

theorem Alike.shape (h : s.Alike s') :
    (s.get? Attribute.parametersName).map Attribute.shape
      =
    (s'.get? Attribute.parametersName).map Attribute.shape := by
  induction h with
  | root hframe => exact hframe.shape
  | inner hframe houter ih =>
    simp only [State.get?, Option.map_or]
    rw [hframe.shape, ih]

/--
States that are alike both have a list of parameters, or fail to have one in the same way.
-/
theorem Alike.parameters (h : s.Alike s') :
    (∃ us us', s.parameters = .ok us ∧ s'.parameters = .ok us') ∨
    ∃ e, s.parameters = .error e ∧ s'.parameters = .error e := by
  have hshape := h.shape
  unfold State.parameters State.get
  cases ha : s.get? Attribute.parametersName with
  | none =>
    cases ha' : s'.get? Attribute.parametersName with
    | none => exact .inr ⟨_, rfl, rfl⟩
    | some a' => simp [ha, ha'] at hshape
  | some a =>
    cases ha' : s'.get? Attribute.parametersName with
    | none => simp [ha, ha'] at hshape
    | some a' =>
      simp only [ha, ha', Option.map_some, Option.some.injEq] at hshape
      cases a <;> cases a' <;> simp [Attribute.shape] at hshape <;> simp

theorem Alike.set (h : s.Alike s') (vs vs' : List Value) :
    (s.set Attribute.parametersName (.values vs)).Alike
      (s'.set Attribute.parametersName (.values vs')) := by
  induction h with
  | root hframe =>
    rw [set_root, set_root]
    exact .root (hframe.insert vs vs')
  | inner hframe houter ih =>
    -- Both writes end in the innermost frame, or both go past it.
    have hbound := congrArg Option.isSome houter.shape
    rw [Option.isSome_map, Option.isSome_map] at hbound
    simp only [set_inner, ← Option.not_isSome_iff_eq_none, hframe.isSome, hbound]
    split
    . exact .inner hframe ih
    . exact .inner (hframe.insert vs vs') houter

end State

namespace Outcome

/--
Outcomes that are alike have one result in states that are alike. They bind as many values there, if
there is a list of parameters to bind them in.
-/
theorem Alike.in_states {o o' : Outcome String} {s s' : State} (h : o.Alike o') (hs : s.Alike s') :
    o.resultIn s = o'.resultIn s' ∧ (s.addValues o.values).Alike (s'.addValues o'.values) ∧
      ((∃ vs vs', vs.length = vs'.length ∧ s.ExtendsParameters vs (s.addValues o.values) ∧
        s'.ExtendsParameters vs' (s'.addValues o'.values)) ∨
      (s.addValues o.values = s ∧ s'.addValues o'.values = s')) := by
  rcases hs.parameters with ⟨us, us', hus, hus'⟩ | ⟨e, he, he'⟩
  . refine ⟨?_, ?_, .inl ⟨o.values, o'.values, h.length, ?_, ?_⟩⟩
    . rw [resultIn_of_ok hus, resultIn_of_ok hus', h.result]
    . rw [State.addValues_eq_set hus, State.addValues_eq_set hus']
      apply hs.set
    . apply State.extendsParameters_addValues hus
    . apply State.extendsParameters_addValues hus'
  . have hempty : o.values.isEmpty = o'.values.isEmpty := by
      rw [Bool.eq_iff_iff]
      rw [List.isEmpty_iff_length_eq_zero, List.isEmpty_iff_length_eq_zero, h.length]
    rw [resultIn_of_error he, resultIn_of_error he', h.result, hempty]
    rw [State.addValues_of_error he, State.addValues_of_error he']
    exact ⟨rfl, hs, .inr ⟨rfl, rfl⟩⟩

end Outcome

namespace Compiler

/--
Two expressions that differ only in values, compiled in two states that differ only in the values
under `parameters`, have the same result, be it a text or an error, and bind as many values.
-/
theorem compiles_alike (d : Dialect) (p : Precedence) (node node' : Node)
    (hnode : node.blank = node'.blank) (s s' : State) (hs : s.Alike s') :
    ∃ result t t', (standard.withDialect d).Compiles node p s (result, t) ∧
      (standard.withDialect d).Compiles node' p s' (result, t') ∧ t.Alike t' ∧
      ((∃ vs vs', vs.length = vs'.length ∧ s.ExtendsParameters vs t ∧
        s'.ExtendsParameters vs' t') ∨
      (t = s ∧ t' = s')) := by
  have halike := Node.alike_of_blank_eq (d := d) hnode p
  obtain ⟨hresult, hstates, hvalues⟩ := halike.in_states hs
  have hcompiles := compiles_standard d node p s
  rw [hresult] at hcompiles
  exact ⟨_, _, _, hcompiles, compiles_standard d node' p s', hstates, hvalues⟩

theorem compiles_alike_sign :
    let c := standard.withDialect .generic
    let number := Node.unaryOp .minus (.scalar (.int64 (-5)))
    let text := Node.unaryOp .minus (.scalar (.text "- 5"))
    let s := State.ofRoot [("parameters", .values [])]
    let s' := State.ofRoot [("parameters", .values [.null, .bool false])]
    number.blank = text.blank ∧ s.Alike s' ∧
      ∃ result t t', c.Compiles number .loosest s (result, t) ∧
        c.Compiles text .loosest s' (result, t') ∧ t.Alike t' ∧
        ((∃ vs vs', vs.length = vs'.length ∧ s.ExtendsParameters vs t ∧
          s'.ExtendsParameters vs' t') ∨
        (t = s ∧ t' = s')) := by
  intro c number text s s'
  have hs : s.Alike s' := by
    apply State.Alike.root
    constructor
    . intro name hname
      change (NameMap.empty.insert Attribute.parametersName _).get? name
        = (NameMap.empty.insert Attribute.parametersName _).get? name
      rw [NameMap.get?_insert_of_ne _ hname, NameMap.get?_insert_of_ne _ hname]
    . rfl
  exact ⟨rfl, hs, compiles_alike .generic .loosest number text rfl s s' hs⟩

end Compiler

end SqlExpr
