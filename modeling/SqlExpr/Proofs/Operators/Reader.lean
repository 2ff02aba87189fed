import SqlExpr.Proofs.Operators.Family
import SqlExpr.Proofs.Precedence

/-!
This module contains a reader for the texts of expressions over a family of operators. It goes
through the pieces of a text from left to right, and what it finds is the blank of an expression
(`Node.blank`). Before an operand a piece can only be one thing; after an operand, the precedence of
the next operator decides how much of what is open is closed first.
-/

namespace SqlExpr

theorem IsSymbol.not_mem {text : String} (h : IsSymbol text) :
    text ∉ ["(", ")", ".", "?", "NULL"] := by
  intro hmem
  simp only [List.mem_cons, List.not_mem_nil, or_false] at hmem
  rcases h with ⟨c, htext, hword, hc⟩ | ⟨_, halphabetic, hnull⟩
  . rcases hmem with rfl | rfl | rfl | rfl | rfl <;> cases htext <;> revert hc <;> decide
  . rcases hmem with rfl | rfl | rfl | rfl | rfl
    . exact absurd (halphabetic '(' List.mem_cons_self) (by decide +kernel)
    . exact absurd (halphabetic ')' List.mem_cons_self) (by decide +kernel)
    . exact absurd (halphabetic '.' List.mem_cons_self) (by decide +kernel)
    . exact absurd (halphabetic '?' List.mem_cons_self) (by decide +kernel)
    . exact hnull rfl

namespace Operators

/--
What is open before an operand.
-/
inductive Pending where
  | brackets
  | prefixed (op : Operator)
  | infixed (op : Operator) (left : Node)

/--
What comes after an operand.
-/
inductive Next where
  | closing
  | infixed (op : Operator)

namespace Pending

/--
What is demanded of the operand. Brackets may be around anything.
-/
def demand? : Pending → Option Precedence
  | .brackets => none
  | .prefixed op => some op.kind.precedence
  | .infixed op _ => some (Handler.operandDemands op.kind.precedence).2

def finish (operand : Node) : Pending → Node
  | .brackets => operand
  | .prefixed op => .unary op.kind op.symbol operand
  | .infixed op left => .binary op.kind op.symbol left operand

/--
Whether something stays open, so that what comes next is part of the operand.
-/
def holds (next : Next) (o : Pending) : Bool :=
  match o.demand?, next with
  | none, _ => true
  | some _, .closing => false
  | some p, .infixed op => p ≤ op.kind.precedence

end Pending

/--
Close everything that does not hold what comes next.
-/
def close (next : Next) (t : Node) : List Pending → Node × List Pending
  | [] => (t, [])
  | o :: stack => if o.holds next then (t, o :: stack) else close next (o.finish t) stack

/--
Where a reader is: before an operand, after a name and a dot, or after an operand.
-/
inductive Reader where
  | before (stack : List Pending)
  | dotted (table : String) (stack : List Pending)
  | after (t : Node) (stack : List Pending)

variable (ops : Operators)

def prefixed? (piece : String) : Option Operator :=
  ops.prefixed.find? (·.symbol = piece)

def infixed? (piece : String) : Option Operator :=
  ops.infixed.find? (·.symbol = piece)

def next? : List String → Option Next
  | [] => some .closing
  | piece :: _ =>
    if piece = ")" then some .closing
    else (ops.infixed? piece).map .infixed

def step (piece : String) : Reader → Option Reader
  | .before stack =>
    if piece = "(" then some (.before (.brackets :: stack))
    else if piece = "?" then some (.after (.scalar (.bool true)) stack)
    else if piece = "NULL" then some (.after .null stack)
    else
      match ops.prefixed? piece with
      | some op => some (.before (.prefixed op :: stack))
      | none => some (.after (.column none piece) stack)
  | .dotted table stack => some (.after (.column (some table) piece) stack)
  | .after t stack =>
    match ops.next? [piece] with
    | some (.infixed op) =>
      let (left, stack) := close (.infixed op) t stack
      some (.before (.infixed op left :: stack))
    | some .closing =>
      match close .closing t stack with
      | (t, .brackets :: stack) => some (.after t stack)
      | _ => none
    | none =>
      match t with
      | .column none table => if piece = "." then some (.dotted table stack) else none
      | _ => none

def run : List String → Reader → Option Node
  | [], .after t stack =>
    match close .closing t stack with
    | (t, []) => some t
    | _ => none
  | [], _ => none
  | piece :: pieces, r =>
    match ops.step piece r with
    | some r => run pieces r
    | none => none

/-! Which operand may stand in what is open, and what may come after it. -/

/--
Whether an operand that binds with a given precedence may stand in what is open innermost.
-/
def Accepts (stack : List Pending) (p : Precedence) : Prop :=
  ∀ o ∈ stack.head?, ∀ q ∈ o.demand?, q ≤ p

/--
Whether what comes next may come after an operand that binds with a given precedence.
-/
def Next.Allows (p : Precedence) : Next → Prop
  | .closing => True
  | .infixed op => (Handler.operandDemands op.kind.precedence).1 ≤ p

def MayFollow (pieces : List String) (p : Precedence) : Prop :=
  ∃ next, ops.next? pieces = some next ∧ next.Allows p

/--
Whether pieces are read as an expression in every place where an operand that binds with `p` may
stand.
-/
def ReadsAs (pieces : List String) (p : Precedence) (t : Node) : Prop :=
  ∀ stack rest, Accepts stack p → ops.MayFollow rest p →
    ops.run (pieces ++ rest) (.before stack) = ops.run rest (.after t stack)

variable {ops : Operators} {p q : Precedence} {stack : List Pending} {t : Node}

theorem Accepts.mono (h : Accepts stack p) (hle : p ≤ q) : Accepts stack q :=
  fun o ho r hr => Precedence.le_trans (h o ho r hr) hle

theorem Next.Allows.mono {next : Next} (h : next.Allows p) (hle : p ≤ q) : next.Allows q := by
  cases next with
  | closing => trivial
  | infixed op => exact Precedence.le_trans h hle

theorem MayFollow.mono {pieces : List String} (h : ops.MayFollow pieces p) (hle : p ≤ q) :
    ops.MayFollow pieces q := by
  obtain ⟨next, hnext, hallows⟩ := h
  exact ⟨next, hnext, hallows.mono hle⟩

/--
What may stand where less is demanded of it is still read in the same way.
-/
theorem ReadsAs.mono {pieces : List String} (h : ops.ReadsAs pieces q t) (hle : p ≤ q) :
    ops.ReadsAs pieces p t :=
  fun stack rest haccepts hfollow => h stack rest (haccepts.mono hle) (hfollow.mono hle)

theorem close_of_accepts {op : Operator} (h : Accepts stack op.kind.precedence) (t : Node) :
    close (.infixed op) t stack = (t, stack) := by
  cases stack with
  | nil => rfl
  | cons o stack =>
    have hholds : o.holds (.infixed op) = true := by
      cases hdemand : o.demand? with
      | none => simp only [Pending.holds, hdemand]
      | some q =>
        simp only [Pending.holds, hdemand, decide_eq_true_eq]
        apply h o rfl q hdemand
    simp only [close, if_pos hholds]

theorem run_after_cons {o : Pending} {next : Next} {rest : List String}
    (hnext : ops.next? rest = some next) (ho : o.holds next = false) (t : Node)
    (stack : List Pending) :
    ops.run rest (.after t (o :: stack)) = ops.run rest (.after (o.finish t) stack) := by
  have hclose : close next t (o :: stack) = close next (o.finish t) stack := by
    simp only [close, ho, Bool.false_eq_true, if_false]
  cases rest with
  | nil =>
    cases hnext
    simp only [run, hclose]
  | cons piece rest =>
    have hone : ops.next? [piece] = some next := hnext
    cases next with
    | closing => simp only [run, step, hone, hclose]
    | infixed op => simp only [run, step, hone, hclose]

/-! The pieces of expressions over the family. -/

theorem find?_symbol {entries : List Operator}
    (hinj : ∀ op ∈ entries, ∀ op' ∈ entries, op.symbol = op'.symbol → op.kind = op'.kind)
    {op : Operator} (h : op ∈ entries) : entries.find? (·.symbol = op.symbol) = some op := by
  cases hfound : entries.find? (·.symbol = op.symbol) with
  | none => simpa using List.find?_eq_none.1 hfound op h
  | some op' =>
    have hsymbol : op'.symbol = op.symbol := by simpa using List.find?_some hfound
    have hkind := hinj op' (List.mem_of_find?_eq_some hfound) op h hsymbol
    cases op
    cases op'
    simp_all

theorem infixed?_of_not_isSymbol {piece : String} (h : ¬ IsSymbol piece) :
    ops.infixed? piece = none := by
  unfold infixed?
  rw [List.find?_eq_none]
  intro op hop heq
  rw [decide_eq_true_eq] at heq
  rw [← heq] at h
  exact h (ops.isInfixed op hop).symbol

variable {op : Operator}

theorem next?_infixed (h : op ∈ ops.infixed) (rest : List String) :
    ops.next? (op.symbol :: rest) = some (.infixed op) := by
  have hclosing : op.symbol ≠ ")" := by
    intro heq
    have := (ops.isInfixed op h).symbol.not_mem
    simp [heq] at this
  simp only [next?, infixed?, if_neg hclosing, find?_symbol ops.infixed_inj h, Option.map_some]

theorem mem_of_next? {rest : List String} (h : ops.next? rest = some (.infixed op)) :
    op ∈ ops.infixed := by
  cases rest with
  | nil => cases h
  | cons piece rest =>
    simp only [next?] at h
    split at h
    . cases h
    . obtain ⟨op', hfound, heq⟩ := Option.map_eq_some_iff.1 h
      cases heq
      exact List.mem_of_find?_eq_some hfound

theorem run_prefixed (h : op ∈ ops.prefixed) (rest : List String) :
    ops.run (op.symbol :: rest) (.before stack) = ops.run rest (.before (.prefixed op :: stack)) := by
  have hmarks := (ops.isPrefixed op h).symbol.not_mem
  simp only [List.mem_cons, List.not_mem_nil, or_false, not_or] at hmarks
  obtain ⟨hopening, _, _, hplaceholder, hnull⟩ := hmarks
  have hfound : ops.prefixed? op.symbol = some op := find?_symbol ops.prefixed_inj h
  simp only [run, step, if_neg hopening, if_neg hplaceholder, if_neg hnull, hfound]

theorem run_infixed (h : op ∈ ops.infixed) (haccepts : Accepts stack op.kind.precedence)
    (rest : List String) :
    ops.run (op.symbol :: rest) (.after t stack) = ops.run rest (.before (.infixed op t :: stack)) := by
  have hnext := next?_infixed h []
  simp only [run, step, hnext, close_of_accepts haccepts]

theorem run_name {name : String} (h : ops.Named name) (rest : List String) :
    ops.run (name :: rest) (.before stack) = ops.run rest (.after (.column none name) stack) := by
  have hopening : name ≠ "(" := by
    intro heq
    have := h.isName
    rw [heq] at this
    exact absurd this (by decide +kernel)
  have hplaceholder : name ≠ "?" := by
    intro heq
    have := h.isName
    rw [heq] at this
    exact absurd this (by decide +kernel)
  have hfound : ops.prefixed? name = none := by
    unfold prefixed?
    rw [List.find?_eq_none]
    intro op hop heq
    rw [decide_eq_true_eq] at heq
    exact h.ne_symbol op (List.mem_append_left _ hop) heq
  simp only [run, step, if_neg hopening, if_neg hplaceholder, if_neg h.ne_null, hfound]

/-! How they are read. -/

theorem readsAs_placeholder (p : Precedence) : ops.ReadsAs ["?"] p (.scalar (.bool true)) :=
  fun _ _ _ _ => rfl

theorem readsAs_null (p : Precedence) : ops.ReadsAs ["NULL"] p .null :=
  fun _ _ _ _ => rfl

theorem readsAs_column {table? : Option String} {name : String}
    (htable : ∀ table ∈ table?, ops.Named table) (hname : ops.Named name) (p : Precedence) :
    ops.ReadsAs (pieces (Node.columnText table? name)) p (.column table? name) := by
  intro stack rest _ _
  cases table? with
  | none =>
    unfold Node.columnText
    rw [pieces_of_isName hname.isName]
    apply run_name hname
  | some table =>
    have hdot : ops.next? ["."] = none := by
      have hnot : ¬ IsSymbol "." := fun h => h.not_mem (by simp)
      simp [next?, infixed?_of_not_isSymbol hnot]
    unfold Node.columnText
    rw [pieces_columnText (htable table rfl).isName hname.isName]
    change ops.run (table :: "." :: name :: rest) (.before stack) = _
    rw [run_name (htable table rfl)]
    simp only [run, step, hdot, if_true]

theorem ReadsAs.bracket {text : String} {own : Precedence} (h : ops.ReadsAs (pieces text) own t)
    (p : Precedence) : ops.ReadsAs (pieces (Compiler.bracket own p text)) p t := by
  unfold Compiler.bracket
  split
  . intro stack rest _ _
    have haccepts : Accepts (.brackets :: stack) own := by simp [Accepts, Pending.demand?]
    have hfollow : ops.MayFollow ([")"] ++ rest) own := ⟨.closing, rfl, trivial⟩
    rw [pieces_bracketed, List.append_assoc, List.append_assoc]
    refine Eq.trans rfl ((h _ _ haccepts hfollow).trans rfl)
  . next hlt => exact h.mono (Precedence.not_lt.1 hlt)

/--
An operator that may come after an operand, but binds no less tightly, binds just as tightly and
associates to the left.
-/
theorem Next.Allows.left (hrank : op.kind.precedence.rank < Int32.maxValue)
    (h : (Next.infixed op).Allows p) (hge : p ≤ op.kind.precedence) :
    op.kind.precedence = p ∧ p.associativity = .left := by
  have hdemand : (Handler.operandDemands op.kind.precedence).1 ≤ p := h
  have hle := Precedence.le_trans (Precedence.le_operandDemands hrank).1 hdemand
  have heq := Precedence.le_antisymm hle hge
  rw [heq] at hdemand hrank
  exact ⟨heq, Precedence.left_of_operandDemands_le hrank hdemand⟩

theorem not_holds_prefixed (hop : op ∈ ops.prefixed) {next : Next} {rest : List String}
    (hnext : ops.next? rest = some next) (hallows : next.Allows op.kind.precedence) :
    (Pending.prefixed op).holds next = false := by
  cases next with
  | closing => rfl
  | infixed op' =>
    simp only [Pending.holds, Pending.demand?, decide_eq_false_iff_not]
    intro hge
    apply (ops.isPrefixed op hop).associativity
    apply (hallows.left (ops.isInfixed op' (mem_of_next? hnext)).rank hge).2

theorem not_holds_infixed (hop : op ∈ ops.infixed) {next : Next} {rest : List String}
    (hnext : ops.next? rest = some next) (hallows : next.Allows op.kind.precedence)
    (left : Node) : (Pending.infixed op left).holds next = false := by
  cases next with
  | closing => rfl
  | infixed op' =>
    -- Both would have one precedence, and one of them associate to the left, the other to the right.
    have hrank := (ops.isInfixed op hop).rank
    simp only [Pending.holds, Pending.demand?, decide_eq_false_iff_not]
    intro hdemand
    have hge := Precedence.le_trans (Precedence.le_operandDemands hrank).2 hdemand
    obtain ⟨heq, hleft⟩ := hallows.left (ops.isInfixed op' (mem_of_next? hnext)).rank hge
    rw [heq] at hdemand
    rw [Precedence.right_of_operandDemands_le hrank hdemand] at hleft
    cases hleft

theorem ReadsAs.prefixed (hop : op ∈ ops.prefixed) {pieces : List String}
    (h : ops.ReadsAs pieces op.kind.precedence t) :
    ops.ReadsAs ([op.symbol] ++ pieces) op.kind.precedence (.unary op.kind op.symbol t) := by
  intro stack rest haccepts hfollow
  have hoperand : Accepts (.prefixed op :: stack) op.kind.precedence := by
    simp [Accepts, Pending.demand?, Precedence.le_refl]
  rw [List.append_assoc, List.singleton_append, run_prefixed hop, h _ _ hoperand hfollow]
  obtain ⟨next, hnext, hallows⟩ := hfollow
  apply run_after_cons hnext
  apply not_holds_prefixed hop hnext hallows

theorem ReadsAs.infixed (hop : op ∈ ops.infixed) {leftPieces rightPieces : List String}
    {left right : Node}
    (hleft : ops.ReadsAs leftPieces (Handler.operandDemands op.kind.precedence).1 left)
    (hright : ops.ReadsAs rightPieces (Handler.operandDemands op.kind.precedence).2 right) :
    ops.ReadsAs (leftPieces ++ [op.symbol] ++ rightPieces) op.kind.precedence
      (.binary op.kind op.symbol left right) := by
  intro stack rest haccepts hfollow
  obtain ⟨hle, hle'⟩ := Precedence.le_operandDemands (ops.isInfixed op hop).rank
  have hsymbol : ops.MayFollow ([op.symbol] ++ (rightPieces ++ rest))
      (Handler.operandDemands op.kind.precedence).1 :=
    ⟨_, next?_infixed hop _, Precedence.le_refl _⟩
  have hoperand : Accepts (.infixed op left :: stack)
      (Handler.operandDemands op.kind.precedence).2 := by
    simp [Accepts, Pending.demand?, Precedence.le_refl]
  rw [List.append_assoc, List.append_assoc, hleft _ _ (haccepts.mono hle) hsymbol]
  rw [List.singleton_append, run_infixed hop haccepts, hright _ _ hoperand (hfollow.mono hle')]
  obtain ⟨next, hnext, hallows⟩ := hfollow
  apply run_after_cons hnext
  apply not_holds_infixed hop hnext hallows

end Operators

end SqlExpr
