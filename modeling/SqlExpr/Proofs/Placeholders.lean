import SqlExpr.Proofs.Outcome.Compiles
import SqlExpr.Proofs.Placeholders.Written

/-!
This module contains the proof that placeholders and parameters line up
(`compile_fills_placeholders`): with strings in the place of the placeholders, the text of a statement
is the text of the statement with columns of these names in the place of the literals
(`Node.encode`).
-/

namespace SqlExpr

namespace Node

mutual

/--
An expression with a column in the place of each literal but null, named by its value.
-/
def encode (enc : Value → String) : Node → Node
  | .literal x => if x.toValue.isNull then .literal x else .column none (enc x.toValue)
  | .unary kind symbol operand => .unary kind symbol (operand.encode enc)
  | .binary kind symbol left right => .binary kind symbol (left.encode enc) (right.encode enc)
  | .chain kind keyword first rest => .chain kind keyword (first.encode enc) (encodeAll enc rest)
  | .call kind name args => .call kind name (encodeAll enc args)
  | .table name => .table name
  | .column table? name => .column table? name
  | .select query => .select (encodeQuery enc query)
  | .setOperation op left right => .setOperation op (left.encode enc) (right.encode enc)
  | .foreign kind precedence value? children =>
    .foreign kind precedence value? (encodeAll enc children)

def encodeAll (enc : Value → String) : List Node → List Node
  | [] => []
  | node :: nodes => node.encode enc :: encodeAll enc nodes

def encodeOption (enc : Value → String) : Option Node → Option Node
  | none => none
  | some node => some (node.encode enc)

def encodeQuery (enc : Value → String) : Query Node → Query Node
  | ⟨distinct, columns, sources, filter, groups, groupFilter, order, limit, offset⟩ =>
    ⟨distinct, encodeAll enc columns, encodeAll enc sources, encodeOption enc filter,
      encodeAll enc groups, encodeOption enc groupFilter, encodeAll enc order, limit, offset⟩

end

/--
Whether an expression has built-in forms only, of any kinds, and no name, symbol or keyword in it has
a placeholder.
-/
inductive Unmarked : Node → Prop where
  | literal (x : Literal) : Unmarked (.literal x)
  | unary {kind : Kind} {symbol : String} {operand : Node} (hsymbol : '?' ∉ symbol.toList)
      (hoperand : Unmarked operand) : Unmarked (.unary kind symbol operand)
  | binary {kind : Kind} {symbol : String} {left right : Node} (hsymbol : '?' ∉ symbol.toList)
      (hleft : Unmarked left) (hright : Unmarked right) :
      Unmarked (.binary kind symbol left right)
  | chain {kind : Kind} {keyword : String} {first : Node} {rest : List Node}
      (hkeyword : '?' ∉ keyword.toList) (hoperands : ∀ node ∈ first :: rest, Unmarked node) :
      Unmarked (.chain kind keyword first rest)
  | call {kind : Kind} {name : String} {args : List Node} (hname : '?' ∉ name.toList)
      (hargs : ∀ node ∈ args, Unmarked node) : Unmarked (.call kind name args)
  | table {name : String} (hname : '?' ∉ name.toList) : Unmarked (.table name)
  | column {table? : Option String} {name : String}
      (htable : ∀ table ∈ table?, '?' ∉ table.toList) (hname : '?' ∉ name.toList) :
      Unmarked (.column table? name)
  | select {query : Query Node} (hparts : ∀ node ∈ query.parts, Unmarked node) :
      Unmarked (.select query)
  | setOperation {op : SetOp} {left right : Node} (hleft : Unmarked left)
      (hright : Unmarked right) : Unmarked (.setOperation op left right)

variable {enc : Value → String} {d : Dialect}

theorem isA_null_encode (node : Node) :
    (node.encode enc).kind.isA Kind.Standard.null = node.kind.isA Kind.Standard.null := by
  cases node with
  | literal x =>
    unfold encode
    split
    . rfl
    . next h =>
      rw [Bool.not_eq_true] at h
      exact (Literal.kind_of_not_isNull h).2.2.symm
  | _ =>
    unfold encode
    rfl

theorem spelling?_encode (kind : Kind) (symbol : String) (right : Node) :
    spelling? kind symbol (right.encode enc) = spelling? kind symbol right := by
  unfold spelling?
  rw [isA_null_encode]

theorem not_mem_spelling? {kind : Kind} {symbol written : String} {right : Node}
    {own : Precedence} (hsymbol : '?' ∉ symbol.toList)
    (h : spelling? kind symbol right = some (own, written)) : '?' ∉ written.toList := by
  unfold spelling? at h
  split at h
  . cases h
    exact hsymbol
  . split at h
    . cases h
      split <;> decide
    . cases h
      exact hsymbol
  . cases h

theorem follows_leaf (hplain : '?' ∉ d.nullKeyword.toList) {node node' : Node}
    (hvalue : node.value? = none) (hkind : node'.kind = node.kind)
    (hprecedence : node'.precedence = node.precedence) (p : Precedence) :
    Outcome.Follows (Written enc) (leafOutcome d node p) (leafOutcome d node' p) := by
  unfold leafOutcome
  rw [hkind, hprecedence]
  split
  . nofun
  . apply Outcome.Follows.bracketed
    apply Outcome.Follows.pure (.plain hplain)
  . rw [hvalue]
    nofun
  . nofun

/--
Whether the expression with columns in the place of literals follows the expression itself, under
every demand.
-/
def Lines (enc : Value → String) (node : Node) : Prop :=
  ∀ p, Outcome.Follows (Written enc) (node.outcome .generic p)
    ((node.encode enc).outcome .generic p)

theorem follows_literal (x : Literal) : Lines enc (.literal x) := by
  intro p
  unfold encode
  split
  . next h =>
    rw [outcome_literal_of_isNull h]
    apply Outcome.Follows.bracketed
    apply Outcome.Follows.pure (.plain (by decide))
  . next h =>
    rw [Bool.not_eq_true] at h
    have hcolumn : Kind.Standard.column.precedence = .tightest := rfl
    rw [outcome_literal_of_not_isNull h, outcome, hcolumn]
    apply Outcome.Follows.bracketed
    intro text vs heq
    cases heq
    refine ⟨enc x.toValue, rfl, .placeholder _, ?_⟩
    intro cs hcs
    cases hcs
    exact .inl rfl

theorem follows_all {nodes : List Node} (h : ∀ node ∈ nodes, Lines enc node) (p : Precedence) :
    Outcome.Follows (FillsAll enc) (outcomeAll .generic nodes p)
      (outcomeAll .generic (encodeAll enc nodes) p) := by
  induction nodes with
  | nil => apply Outcome.Follows.pure .nil
  | cons node nodes ih =>
    rw [List.forall_mem_cons] at h
    unfold encodeAll outcomeAll
    apply (h.1 p).bind
    intro text us text' hfirst
    apply (ih h.2).bind
    intro texts vs texts' hrest
    apply Outcome.Follows.pure
    rw [List.append_nil]
    exact .cons hfirst.fills hrest

theorem follows_option {node? : Option Node} (h : ∀ node ∈ node?, Lines enc node) :
    Outcome.Follows (fun text? vs text?' => FillsAll enc text?.toList vs text?'.toList)
      (outcomeOption .generic node?) (outcomeOption .generic (encodeOption enc node?)) := by
  cases node? with
  | none => apply Outcome.Follows.pure .nil
  | some node =>
    unfold encodeOption outcomeOption
    apply (h node rfl .clause).bind
    intro text vs text' hwritten
    apply Outcome.Follows.pure
    exact .cons hwritten.fills .nil

theorem follows_select {q : Query Node} (h : ∀ node ∈ q.parts, Lines enc node) :
    Lines enc (.select q) := by
  obtain ⟨distinct, columns, sources, filter, groups, groupFilter, order, limit, offset⟩ := q
  rw [Query.forall_mem_parts] at h
  obtain ⟨hcolumns, hsources, hfilter, hgroups, hgroupFilter, horder⟩ := h
  intro p
  unfold encode encodeQuery outcome outcomeQuery
  apply Outcome.Follows.bracketed
  simp only [bind_assoc, pure_bind]
  apply (follows_all hcolumns .clause).bind
  intro columns us columns' hcolumns
  apply (follows_all hsources .clause).bind
  intro sources vs sources' hsources
  apply (follows_option hfilter).bind
  intro filter us filter' hfilter
  apply (follows_all hgroups .clause).bind
  intro groups us groups' hgroups
  apply (follows_option hgroupFilter).bind
  intro groupFilter us groupFilter' hgroupFilter
  apply (follows_all horder .clause).bind
  intro order us order' horder
  apply Outcome.Follows.pure
  rw [List.append_nil]
  simp only [← List.append_assoc]
  apply written_queryText hcolumns hsources hfilter hgroups hgroupFilter horder

theorem follows_unary {kind : Kind} {symbol : String} {operand : Node}
    (hsign : ∀ v, (enc v).toList.head?.any Handler.isSign = false)
    (hsymbol : '?' ∉ symbol.toList) (hoperand : Lines enc operand) :
    Lines enc (.unary kind symbol operand) := by
  intro p
  unfold encode outcome
  split
  . apply Outcome.Follows.bracketed
    apply (hoperand kind.precedence).bind
    intro text us text' hwritten
    apply Outcome.Follows.pure
    rw [List.append_nil, hwritten.separator hsign]
    have hseparator : '?' ∉ (Handler.separator symbol text).toList := by
      simp only [Handler.separator]
      split <;> decide
    have hlead : '?' ∉ (symbol ++ Handler.separator symbol text).toList := by
      rw [String.toList_append, List.mem_append, not_or]
      exact ⟨hsymbol, hseparator⟩
    constructor
    . apply Fills.plain_append hlead hwritten.fills
    . by_cases hempty : symbol = ""
      . rw [hempty]
        have hnone : Handler.separator "" text = "" := rfl
        rw [hnone, String.empty_append, String.empty_append]
        exact hwritten.leads
      . apply Leads.plain_append _ hlead
        simp [hempty]
  . exact follows_leaf (by decide) rfl rfl rfl p

theorem follows_binary {kind : Kind} {symbol : String} {left right : Node}
    (hsymbol : '?' ∉ symbol.toList) (hleft : Lines enc left) (hright : Lines enc right) :
    Lines enc (.binary kind symbol left right) := by
  intro p
  unfold encode outcome
  rw [spelling?_encode]
  split
  . next own written hspelling =>
    apply Outcome.Follows.bracketed
    apply Outcome.Follows.joined (not_mem_spelling? hsymbol hspelling) (hleft _) (hright _)
  . exact follows_leaf (by decide) rfl rfl rfl p

theorem follows_chain {kind : Kind} {keyword : String} {first : Node} {rest : List Node}
    (hkeyword : '?' ∉ keyword.toList) (hoperands : ∀ node ∈ first :: rest, Lines enc node) :
    Lines enc (.chain kind keyword first rest) := by
  rw [List.forall_mem_cons] at hoperands
  intro p
  unfold encode outcome
  split
  . apply Outcome.Follows.bracketed
    apply (hoperands.1 kind.precedence).bind
    intro text us text' hfirst
    apply (follows_all hoperands.2 kind.precedence).bind
    intro texts vs texts' hrest
    apply Outcome.Follows.pure
    have hjoint : '?' ∉ (" " ++ keyword ++ " ").toList := by
      simp only [String.toList_append, List.mem_append, not_or]
      exact ⟨⟨by decide, hkeyword⟩, by decide⟩
    rw [List.append_nil]
    constructor
    . apply FillsAll.intercalate hjoint (.cons hfirst.fills hrest)
    . cases texts with
      | nil =>
        rw [String.intercalate_singleton]
        exact hfirst.leads
      | cons second texts =>
        rw [String.intercalate_cons_cons]
        have hassoc : text ++ (" " ++ keyword ++ " ") = text ++ " " ++ (keyword ++ " ") := by
          simp only [String.append_assoc]
        rw [hassoc, String.append_assoc]
        apply hfirst.leads.append_space
  . exact follows_leaf (by decide) rfl rfl rfl p

theorem follows_call {kind : Kind} {name : String} {args : List Node} (hname : '?' ∉ name.toList)
    (hargs : ∀ node ∈ args, Lines enc node) : Lines enc (.call kind name args) := by
  intro p
  unfold encode outcome
  split
  . apply Outcome.Follows.bracketed
    apply (follows_all hargs .clause).bind
    intro texts us texts' hall
    apply Outcome.Follows.pure
    have hopen : '?' ∉ (name ++ "(").toList := by
      rw [String.toList_append, List.mem_append, not_or]
      exact ⟨hname, by decide⟩
    rw [List.append_nil]
    constructor
    . apply Fills.append_plain _ (by decide)
      apply Fills.plain_append hopen
      apply hall.intercalate (by decide)
    . rw [String.append_assoc]
      apply Leads.plain_append _ hopen
      simp
  . exact follows_leaf (by decide) rfl rfl rfl p

theorem Unmarked.lines (hsign : ∀ v, (enc v).toList.head?.any Handler.isSign = false) {node : Node}
    (h : node.Unmarked) : Lines enc node := by
  induction h with
  | literal x => apply follows_literal
  | unary hsymbol _ ih => apply follows_unary hsign hsymbol ih
  | binary hsymbol _ _ ihleft ihright => apply follows_binary hsymbol ihleft ihright
  | chain hkeyword _ ih => apply follows_chain hkeyword ih
  | call hname _ ih => apply follows_call hname ih
  | table hname =>
    intro p
    unfold encode outcome
    apply Outcome.Follows.bracketed
    apply Outcome.Follows.pure (.plain hname)
  | @column table? name htable hname =>
    intro p
    unfold encode outcome
    apply Outcome.Follows.bracketed
    apply Outcome.Follows.pure
    apply Written.plain
    cases table? with
    | none => exact hname
    | some table =>
      simp only [columnText, String.toList_append, List.mem_append, not_or]
      exact ⟨⟨htable table rfl, by decide⟩, hname⟩
  | select _ ih => apply follows_select ih
  | @setOperation op left right _ _ ihleft ihright =>
    intro p
    unfold encode outcome
    apply Outcome.Follows.bracketed
    apply Outcome.Follows.joined _ (ihleft _) (ihright _)
    cases op <;> decide

end Node

/--
A statement has as many placeholders as parameters, and with an encoding of the parameters in their
place, in order, it is the statement that has columns of these names in the place of its literals.
-/
theorem compile_fills_placeholders {node : Node} (h : node.Unmarked) {text : String}
    {vs : List Value} (hcompile : compile node = .ok (text, vs)) :
    text.toList.count '?' = vs.length ∧
      ∀ enc : Value → String,
        (∀ v, '?' ∉ (enc v).toList ∧ (enc v).toList.head? ≠ some '+' ∧
          (enc v).toList.head? ≠ some '-') →
        compile (node.encode enc) = .ok (fill text (vs.map enc), []) := by
  have hout : node.outcome .generic .loosest = ⟨.ok text, vs⟩ := by
    rw [compile_eq_outcome] at hcompile
    cases hout : node.outcome .generic .loosest with
    | mk result values =>
      rw [hout] at hcompile
      cases result with
      | error e => cases hcompile
      | ok text' =>
        cases hcompile
        rfl
  constructor
  -- The number of placeholders is the same for every encoding, so any of them will do.
  . have hplain : ∀ v : Value, ("" : String).toList.head?.any Handler.isSign = false := by
      intro v
      rfl
    obtain ⟨_, _, hwritten⟩ := h.lines hplain .loosest _ _ hout
    exact hwritten.fills.count
  . intro enc henc
    have hsign (v : Value) : (enc v).toList.head?.any Handler.isSign = false := by
      obtain ⟨_, hplus, hminus⟩ := henc v
      cases hhead : (enc v).toList.head? with
      | none => rfl
      | some c =>
        rw [hhead] at hplus hminus
        simp [Handler.isSign]
        grind
    obtain ⟨text', hout', hwritten⟩ := h.lines hsign .loosest _ _ hout
    rw [compile_eq_outcome, hout', hwritten.fills.filled]
    rfl

/--
A sign before a flag, with a name in the place of the flag, compared with null.
-/
theorem compile_fills_placeholders_sign :
    compile (.binaryOp .equal (.unaryOp .minus (.column none "x")) .null)
      =
    .ok (fill "-? IS NULL" ["x"], []) := by
  have hunmarked : (Node.binaryOp .equal (.unaryOp .minus (.scalar (.bool true))) .null).Unmarked :=
    .binary (by decide) (.unary (by decide) (.literal _)) (.literal _)
  have hcompile : compile (.binaryOp .equal (.unaryOp .minus (.scalar (.bool true))) .null)
      = .ok ("-? IS NULL", [.bool true]) := rfl
  obtain ⟨_, hfill⟩ := compile_fills_placeholders hunmarked hcompile
  apply hfill (fun _ => "x")
  intro v
  decide

end SqlExpr
