import SqlExpr.Node.Build
import SqlExpr.Proofs.Precedence
import SqlExpr.Proofs.Replacement

/-!
This module contains the proof that what is demanded of a node decides about one pair of brackets
and about nothing else (`Compiler.compiles_up_to_brackets`): handlers run without it, so the text
inside the brackets, the errors and the state that is left are the same for all demands.
-/

namespace SqlExpr

namespace Compiler

variable {c : Compiler} {node : Node} {s : State} {p q : Precedence}

theorem bracket_of_le (own : Precedence) (h : p ≤ q) (text : String) :
    bracket own q text = bracket own p text ∨
      bracket own p text = text ∧ bracket own q text = "(" ++ text ++ ")" := by
  unfold bracket
  by_cases hp : own < p
  . left
    rw [if_pos hp, if_pos (Precedence.lt_of_lt_of_le hp h)]
  . by_cases hq : own < q
    . right
      rw [if_neg hp, if_pos hq]
      exact ⟨rfl, rfl⟩
    . left
      rw [if_neg hp, if_neg hq]

/--
Whether what compiling a node gives for each demand is the same for all of them up to brackets: it
ends for none, or with one error, or with one text that is bracketed by the precedence of the last
node in the chain of replacements.
-/
inductive Bracketed (c : Compiler) (node : Node) (s : State)
    (results : Precedence → Option (Except Error String × State)) : Prop where
  | never (h : ∀ p, results p = none)
  | failed (e : Error) (s' : State) (h : ∀ p, results p = some (.error e, s'))
  | written (last : Node) (view : State) (text : String) (after s' : State)
    (hchain : Relation.ReflTransGen c.Replaces (node, s) (last, view))
    (hmakes : c.Makes last view (.sql text) after)
    (h : ∀ p, results p = some (.ok (bracket last.precedence p text), s'))

variable {results : Precedence → Option (Except Error String × State)}

theorem Bracketed.of_replaces {replacement : Node} {view : State}
    (hstep : c.Replaces (node, s) (replacement, view)) (h : c.Bracketed replacement view results)
    (f : State → State) :
    c.Bracketed node s fun p => (results p).map fun r => (r.1, f r.2) := by
  cases h with
  | never h =>
    apply Bracketed.never
    intro p
    rw [h, Option.map_none]
  | failed e s' h =>
    apply Bracketed.failed e (f s')
    intro p
    rw [h, Option.map_some]
  | written last below text after s' hchain hmakes h =>
    apply Bracketed.written last below text after (f s') (.head hstep hchain) hmakes
    intro p
    rw [h, Option.map_some]

theorem bracketed_compileAt (c : Compiler) (depth : Nat) (node : Node) (s : State) :
    c.Bracketed node s fun p => c.compileAt depth node p s := by
  induction depth generalizing node s with
  | zero =>
    apply Bracketed.never
    intro p
    rfl
  | succ depth ih =>
    cases hlookup : c.lookup? node.kind with
    | none =>
      apply Bracketed.failed (.noHandler node.kind.name) s
      intro p
      apply compileAt_of_lookup?_none hlookup
    | some handler =>
      simp only [compileAt_of_lookup? hlookup, serveWith]
      cases hrun : (handler node).run c (c.compileAt depth)
          (.inner (State.demandFrame node.precedence) s) with
      | none =>
        apply Bracketed.never
        intro p
        rfl
      | some r =>
        obtain ⟨result, after⟩ := r
        cases result with
        | error e =>
          apply Bracketed.failed e
          intro p
          rfl
        | ok fragment =>
          have hmakes : c.Makes node s fragment after := ⟨depth, handler, hlookup, hrun⟩
          cases fragment with
          | sql text =>
            apply Bracketed.written node s text after _ .refl hmakes
            intro p
            rfl
          | replace replacement =>
            cases after with
            | root frame =>
              apply Bracketed.failed .rootScope
              intro p
              rfl
            | inner hidden view =>
              -- The demand is handed on to the replacement, and nothing is added to its text.
              simp only [Option.bind_some, finish, State.parentView_inner, Option.map_map]
              exact (ih replacement view).of_replaces ⟨_, hmakes, rfl⟩ fun s' =>
                (State.inner hidden (s'.cutTo view.depth)).cutTo s.depth

/--
For two demands, a node is compiled to the same error, or to one text that stands in brackets for a
demand that is above the precedence of the last node in the chain of replacements. The state that is
left is the same.
-/
theorem compiles_up_to_brackets {r r' : Except Error String} {t t' : State}
    (h : c.Compiles node p s (r, t)) (h' : c.Compiles node q s (r', t')) :
    t = t' ∧
      ((∃ e, r = .error e ∧ r' = .error e) ∨
        ∃ last view text after, Relation.ReflTransGen c.Replaces (node, s) (last, view) ∧
          c.Makes last view (.sql text) after ∧
          (∀ demanded, c.Compiles node demanded s
            (.ok (if last.precedence < demanded then "(" ++ text ++ ")" else text), t)) ∧
          r = .ok (if last.precedence < p then "(" ++ text ++ ")" else text) ∧
          r' = .ok (if last.precedence < q then "(" ++ text ++ ")" else text) ∧
          (p ≤ q → r' = r ∨ r = .ok text ∧ r' = .ok ("(" ++ text ++ ")"))) := by
  have ⟨depth, hdepth⟩ := h
  cases c.bracketed_compileAt depth node s with
  | never hnone =>
    rw [hnone] at hdepth
    cases hdepth
  | failed e s' herror =>
    cases h.unique ⟨depth, herror p⟩
    cases h'.unique ⟨depth, herror q⟩
    exact ⟨rfl, .inl ⟨e, rfl, rfl⟩⟩
  | written last view text after s' hchain hmakes htext =>
    cases h.unique ⟨depth, htext p⟩
    cases h'.unique ⟨depth, htext q⟩
    refine ⟨rfl, .inr ⟨last, view, text, after, hchain, hmakes, ?_, rfl, rfl, ?_⟩⟩
    . intro demanded
      exact ⟨depth, htext demanded⟩
    . intro hle
      rcases bracket_of_le last.precedence hle text with heq | ⟨hp, hq⟩
      . left
        rw [heq]
      . right
        rw [hp, hq]
        exact ⟨rfl, rfl⟩

/--
A comparison with null is bracketed where a comparison is demanded, because the identity test that
replaces it binds less tightly.
-/
theorem compiles_up_to_brackets_null :
    let node := Node.eq (.col "a") .null
    let comparison := Precedence.nonassoc Rank.comparison
    standard.Compiles node .clause .new (.ok "a IS NULL", .new) ∧
      standard.Compiles node comparison .new (.ok "(a IS NULL)", .new) ∧
      ∃ last view text after,
        Relation.ReflTransGen standard.Replaces (node, State.new) (last, view) ∧
        standard.Makes last view (.sql text) after ∧
        "a IS NULL" = (if last.precedence < .clause then "(" ++ text ++ ")" else text) ∧
        "(a IS NULL)" = (if last.precedence < comparison then "(" ++ text ++ ")" else text) := by
  intro node comparison
  have hclause : standard.Compiles node .clause .new (.ok "a IS NULL", .new) := ⟨4, rfl⟩
  have hcomparison : standard.Compiles node comparison .new (.ok "(a IS NULL)", .new) := ⟨4, rfl⟩
  refine ⟨hclause, hcomparison, ?_⟩
  rcases (compiles_up_to_brackets hclause hcomparison).2 with ⟨e, herror, _⟩ | ⟨last, view, text,
    after, hchain, hmakes, _, htext, htext', _⟩
  . cases herror
  . injection htext with htext
    injection htext' with htext'
    exact ⟨last, view, text, after, hchain, hmakes, htext, htext'⟩

end Compiler

end SqlExpr
