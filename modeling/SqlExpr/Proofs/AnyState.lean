import Mathlib.Data.List.Forall2
import SqlExpr.Proofs.Outcome.Compiles

/-!
This module contains the proof that the standard compiler reads nothing of the state that it compiles
in, and that it leaves nothing there but the values it binds (`Compiler.compiles_in_any_state`).
-/

namespace SqlExpr

namespace Outcome

variable {o : Outcome String} {own : Precedence} {text : String} {vs : List Value}

theorem bracketed_eq_ok_iff {p : Precedence} :
    o.bracketed own p = ⟨.ok text, vs⟩
      ↔
    ∃ inner, o = ⟨.ok inner, vs⟩ ∧ Compiler.bracket own p inner = text := by
  obtain ⟨result, us⟩ := o
  cases result with
  | error e => simp [bracketed]
  | ok inner =>
    simp only [bracketed, ok_bind, pure_eq, List.append_nil, mk.injEq, Except.ok.injEq]
    constructor
    . intro h
      exact ⟨inner, ⟨rfl, h.2⟩, h.1⟩
    . intro h
      obtain ⟨_, ⟨rfl, hvs⟩, htext⟩ := h
      exact ⟨htext, hvs⟩

theorem joined_eq_ok_iff {written : String} {left right : Outcome String} :
    joined written left right = ⟨.ok text, vs⟩
      ↔
    ∃ leftText us rightText us', left = ⟨.ok leftText, us⟩ ∧ right = ⟨.ok rightText, us'⟩ ∧
      Handler.infixText leftText written rightText = text ∧ us ++ us' = vs := by
  constructor
  . intro h
    obtain ⟨leftText, us, ws, hleft, hrest, hvs⟩ := bind_eq_ok h
    obtain ⟨rightText, us', ws', hright, hpure, hws⟩ := bind_eq_ok hrest
    cases hpure
    rw [List.append_nil] at hws
    rw [hws] at hvs
    exact ⟨leftText, us, rightText, us', hleft, hright, rfl, hvs.symm⟩
  . intro h
    obtain ⟨leftText, us, rightText, us', rfl, rfl, rfl, rfl⟩ := h
    simp [joined]

end Outcome

namespace Node

theorem outcome_eq_bracketed (d : Dialect) (node : Node) :
    ∃ own o, ∀ p, node.outcome d p = .bracketed own p o := by
  -- A demand has no other effect than brackets around the text.
  have hleaf (node : Node) : ∃ own o, ∀ p, leafOutcome d node p = .bracketed own p o := by
    unfold leafOutcome
    split
    . exact ⟨.tightest, .fail _, fun p => rfl⟩
    . exact ⟨_, _, fun p => rfl⟩
    . split
      . exact ⟨.tightest, .fail _, fun p => rfl⟩
      . exact ⟨_, _, fun p => rfl⟩
    . exact ⟨.tightest, .fail _, fun p => rfl⟩
  cases node with
  | literal x => apply hleaf
  | unary kind symbol operand =>
    unfold outcome
    split
    . exact ⟨_, _, fun p => rfl⟩
    . apply hleaf
  | binary kind symbol left right =>
    unfold outcome
    split
    . exact ⟨_, _, fun p => rfl⟩
    . apply hleaf
  | chain kind keyword first rest =>
    unfold outcome
    split
    . exact ⟨_, _, fun p => rfl⟩
    . apply hleaf
  | call kind name args =>
    unfold outcome
    split
    . exact ⟨_, _, fun p => rfl⟩
    . apply hleaf
  | table name => exact ⟨_, _, fun p => rfl⟩
  | column table? name => exact ⟨_, _, fun p => rfl⟩
  | select query => exact ⟨_, _, fun p => rfl⟩
  | setOperation op left right => exact ⟨_, _, fun p => rfl⟩
  | foreign kind precedence value? children => apply hleaf

theorem outcome_of_demand {d : Dialect} {node : Node} {p : Precedence} {text : String}
    {vs : List Value} (h : node.outcome d p = ⟨.ok text, vs⟩) (q : Precedence) :
    ∃ text', node.outcome d q = ⟨.ok text', vs⟩ := by
  obtain ⟨own, o, heq⟩ := outcome_eq_bracketed d node
  rw [heq, Outcome.bracketed_eq_ok_iff] at h
  obtain ⟨inner, h, _⟩ := h
  refine ⟨Compiler.bracket own q inner, ?_⟩
  rw [heq, Outcome.bracketed_eq_ok_iff]
  exact ⟨inner, h, rfl⟩

end Node

namespace State

/--
Whether the second state differs from the first one by values at the end of the list under
`parameters` in the innermost frame that has one, and in nothing else.
-/
def ExtendsParameters (s : State) (vs : List Value) (s' : State) : Prop :=
  ∃ nearer frame farther us, s.frames = nearer ++ frame :: farther ∧
    (∀ other ∈ nearer, other.get? Attribute.parametersName = none) ∧
    frame.get? Attribute.parametersName = some (.values us) ∧
    s'.frames
      = nearer ++ frame.insert Attribute.parametersName (.values (us ++ vs)) :: farther

theorem extendsParameters_addValues {s : State} {us : List Value} (h : s.parameters = .ok us)
    (vs : List Value) : s.ExtendsParameters vs (s.addValues vs) := by
  obtain ⟨nearer, frame, farther, hframes, hnearer, hframe, hset⟩ :=
    frames_set (parameters_eq_ok_iff.1 h)
  refine ⟨nearer, frame, farther, us, hframes, hnearer, hframe, ?_⟩
  rw [addValues_eq_set h, hset]

end State

namespace Compiler

/--
Whether a statement compiles to a text and the values of its placeholders.
-/
def CompilesTo (c : Compiler) (node : Node) (text : String) (vs : List Value) : Prop :=
  ∃ depth, c.compile depth node = some (.ok (text, vs))

/--
Compiling nodes one after another in one state, each with its own demand: the texts, and the state
that is left in the end.
-/
inductive CompilesEach (c : Compiler) :
    List (Node × Precedence) → State → List String → State → Prop where
  | nil (s : State) : c.CompilesEach [] s [] s
  | cons {node : Node} {p : Precedence} {items : List (Node × Precedence)} {s between s' : State}
      {text : String} {texts : List String} (first : c.Compiles node p s (.ok text, between))
      (rest : c.CompilesEach items between texts s') :
      c.CompilesEach ((node, p) :: items) s (text :: texts) s'

variable {d : Dialect} {node : Node} {text : String} {vs us : List Value} {s : State}

theorem compilesTo_standard_iff :
    (standard.withDialect d).CompilesTo node text vs ↔ node.outcome d .loosest = ⟨.ok text, vs⟩ := by
  constructor
  . intro h
    obtain ⟨depth, h⟩ := h
    apply outcome_of_compile h
  . intro h
    refine ⟨2 * node.height + 2, ?_⟩
    rw [compile_standard d (Nat.le_refl _), h]
    rfl

theorem CompilesTo.compiles (h : (standard.withDialect d).CompilesTo node text vs)
    (p : Precedence) :
    ∃ text', ∀ s us, s.parameters = .ok us →
      (standard.withDialect d).Compiles node p s (.ok text', s.addValues vs) := by
  rw [compilesTo_standard_iff] at h
  obtain ⟨text', hout⟩ := Node.outcome_of_demand h p
  refine ⟨text', ?_⟩
  intro s us hs
  rw [compiles_standard_iff hs, hout]

theorem compilesEach_standard {items : List (Node × Precedence)} {vss : List (List Value)}
    (h : List.Forall₂
      (fun item vs => ∃ text, (standard.withDialect d).CompilesTo item.1 text vs) items vss)
    (hs : s.parameters = .ok us) :
    ∃ texts, (standard.withDialect d).CompilesEach items s texts (s.addValues vss.flatten) ∧
      List.Forall₂ (fun item text => ∃ alone,
        (standard.withDialect d).Compiles item.1 item.2 .new (.ok text, alone)) items texts := by
  induction h generalizing s us with
  | nil =>
    refine ⟨[], ?_, .nil⟩
    rw [List.flatten_nil, State.addValues_nil]
    apply CompilesEach.nil
  | @cons item vs items vss hitem _ ih =>
    obtain ⟨text, hitem⟩ := hitem
    obtain ⟨text', hcompiles⟩ := hitem.compiles item.2
    obtain ⟨texts, hrest, halone⟩ := ih (State.parameters_addValues hs vs)
    refine ⟨text' :: texts, ?_, .cons ⟨_, hcompiles _ _ parameters_new⟩ halone⟩
    -- The rest starts with the values of the first node in the state, so both are added at once.
    rw [State.addValues_addValues hs] at hrest
    rw [List.flatten_cons]
    apply CompilesEach.cons (hcompiles s us hs) hrest

/--
A statement that compiles has the same text in every state with parameters, whatever is demanded of
it, and adds its values to the nearest list of parameters. So do several, one after another.
-/
theorem compiles_in_any_state (d : Dialect) :
    (∀ node text vs, (standard.withDialect d).CompilesTo node text vs →
      ∀ s us p, s.parameters = .ok us → ∃ text' alone s',
        (standard.withDialect d).Compiles node p .new (.ok text', alone) ∧
        (standard.withDialect d).Compiles node p s (.ok text', s') ∧
        s.ExtendsParameters vs s') ∧
    (∀ items vss,
      List.Forall₂ (fun item vs => ∃ text, (standard.withDialect d).CompilesTo item.1 text vs)
        items vss →
      ∀ s us, s.parameters = .ok us → ∃ texts s',
        (standard.withDialect d).CompilesEach items s texts s' ∧
        List.Forall₂ (fun item text => ∃ alone,
          (standard.withDialect d).Compiles item.1 item.2 .new (.ok text, alone)) items texts ∧
        s.ExtendsParameters vss.flatten s') := by
  constructor
  . intro node text vs h s us p hs
    obtain ⟨text', hcompiles⟩ := h.compiles p
    refine ⟨text', _, _, hcompiles _ _ parameters_new, hcompiles _ _ hs, ?_⟩
    apply State.extendsParameters_addValues hs
  . intro items vss h s us hs
    obtain ⟨texts, heach, halone⟩ := compilesEach_standard h hs
    exact ⟨texts, _, heach, halone, State.extendsParameters_addValues hs _⟩

theorem compiles_in_any_state_flag :
    let c := standard.withDialect .generic
    let flag := Node.scalar (.bool true)
    let s := State.inner (.ofList [("precedence", .text "none"), ("parameters", .values [.null])])
      .new
    (∃ text' alone s', c.Compiles flag .clause .new (.ok text', alone) ∧
      c.Compiles flag .clause s (.ok text', s') ∧ s.ExtendsParameters [.bool true] s') ∧
    (∃ texts s', c.CompilesEach [(flag, .clause), (flag, .loosest)] s texts s' ∧
      List.Forall₂ (fun item text => ∃ alone, c.Compiles item.1 item.2 .new (.ok text, alone))
        [(flag, .clause), (flag, .loosest)] texts ∧
      s.ExtendsParameters [.bool true, .bool true] s') := by
  intro c flag s
  have hflag : c.CompilesTo flag "?" [.bool true] := ⟨2, rfl⟩
  constructor
  . apply (compiles_in_any_state .generic).1 flag "?" [.bool true] hflag s [.null] .clause rfl
  . apply (compiles_in_any_state .generic).2 _ [[.bool true], [.bool true]]
      (.cons ⟨_, hflag⟩ (.cons ⟨_, hflag⟩ .nil)) s [.null] rfl

end Compiler

end SqlExpr
