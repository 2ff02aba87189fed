import SqlExpr.Node.Build
import SqlExpr.Proofs.Node.Context
import SqlExpr.Proofs.Precedence

/-!
This module contains the proof that it makes no difference how chains of one kind and keyword are
nested in one another (`Compiler.nestings_compile_alike`). An inner chain has no brackets, because
it binds just as the outer one demands, and its operands are compiled with the same demand.
-/

namespace SqlExpr

theorem Compiler.service?_of_lookup?_chain {d : Dialect} {kind : Kind}
    (h : (standard.withDialect d).lookup? kind = some Handler.chain) :
    kind.service? = some .chain := by
  rw [lookup?_standard] at h
  obtain ⟨service, hservice, hhandler⟩ := Option.map_eq_some_iff.1 h
  -- No two handlers make the same of null.
  have hnull := congrFun hhandler .null
  cases service with
  | chain => exact hservice
  | _ => cases hnull

namespace Outcome

variable {α β : Type}

theorem map_injective {f : α → β} (hf : Function.Injective f) {o o' : Outcome α}
    (h : (do let a ← o; pure (f a)) = (do let a ← o'; pure (f a) : Outcome β)) : o = o' := by
  obtain ⟨result, vs⟩ := o
  obtain ⟨result', vs'⟩ := o'
  cases result with
  | error e =>
    cases result' with
    | error e' => simpa using h
    | ok a' => simp at h
  | ok a =>
    cases result' with
    | error e' => simp at h
    | ok a' =>
      simp only [ok_bind, pure_eq, List.append_nil, mk.injEq, Except.ok.injEq] at h ⊢
      exact ⟨hf h.1, h.2⟩

theorem bracketed_self (p : Precedence) (o : Outcome String) : o.bracketed p p = o := by
  unfold bracketed
  simp only [bracket_self, bind_pure]

end Outcome

namespace Node

/--
Whether operands of chains of a kind and keyword become others by opening inner chains of this kind
and keyword: any of them, at any depth.
-/
inductive Opens (kind : Kind) (keyword : String) : List Node → List Node → Prop where
  | nil : Opens kind keyword [] []
  | leaf (node : Node) {nodes leaves : List Node} (h : Opens kind keyword nodes leaves) :
      Opens kind keyword (node :: nodes) (node :: leaves)
  | inner {first : Node} {rest inner nodes leaves : List Node}
      (hinner : Opens kind keyword (first :: rest) inner) (h : Opens kind keyword nodes leaves) :
      Opens kind keyword (.chain kind keyword first rest :: nodes) (inner ++ leaves)

variable {d : Dialect} {separator keyword : String} {kind : Kind} {p : Precedence}

/--
The texts of some nodes, with a separator before each of them.
-/
def separated (d : Dialect) (separator : String) (p : Precedence) : List Node → Outcome String
  | [] => pure ""
  | node :: nodes => do
    let text ← node.outcome d p
    let texts ← separated d separator p nodes
    pure (separator ++ text ++ texts)

theorem separated_append (nodes nodes' : List Node) :
    separated d separator p (nodes ++ nodes')
      =
    (do
      let texts ← separated d separator p nodes
      let texts' ← separated d separator p nodes'
      pure (texts ++ texts')) := by
  induction nodes with
  | nil => simp only [List.nil_append, separated, pure_bind, String.empty_append, bind_pure]
  | cons node nodes ih =>
    simp only [List.cons_append, separated, ih, bind_assoc, pure_bind, String.append_assoc]

theorem separated_cons (first : Node) (rest : List Node) :
    separated d separator p (first :: rest)
      =
    (do
      let texts ← outcomeAll d (first :: rest) p
      pure (separator ++ separator.intercalate texts)) := by
  induction rest generalizing first with
  | nil => simp [separated, outcomeAll]
  | cons second rest ih =>
    rw [separated, ih second]
    simp only [outcomeAll, bind_assoc, pure_bind, String.intercalate_cons_cons,
      String.append_assoc]

theorem separated_chain (h : kind.service? = some .chain) (first : Node) (rest nodes : List Node) :
    separated d (" " ++ keyword ++ " ") kind.precedence (.chain kind keyword first rest :: nodes)
      =
    separated d (" " ++ keyword ++ " ") kind.precedence ((first :: rest) ++ nodes) := by
  rw [separated_append, separated_cons first rest, separated, outcome_chain h,
    Outcome.bracketed_self]
  simp only [bind_assoc, pure_bind]

theorem Opens.separated_eq {nodes leaves : List Node} (h : Opens kind keyword nodes leaves)
    (hservice : kind.service? = some .chain) :
    separated d (" " ++ keyword ++ " ") kind.precedence nodes
      =
    separated d (" " ++ keyword ++ " ") kind.precedence leaves := by
  induction h with
  | nil => rfl
  | leaf node _ ih => rw [separated, separated, ih]
  | inner _ _ ihinner ih =>
    rw [separated_chain hservice, separated_append, separated_append, ihinner, ih]

/--
Chains that open to the same operands have the same text between the same brackets: after one more
separator it is the text of these operands with separators before them.
-/
theorem Opens.interchangeable {first first' : Node} {rest rest' leaves : List Node}
    (h : Opens kind keyword (first :: rest) leaves)
    (h' : Opens kind keyword (first' :: rest') leaves) (hservice : kind.service? = some .chain) :
    Interchangeable d (.chain kind keyword first rest) (.chain kind keyword first' rest') := by
  refine ⟨rfl, ?_⟩
  intro p
  have hsame := h.separated_eq (d := d) hservice
  rw [← h'.separated_eq hservice, separated_cons, separated_cons] at hsame
  have htexts : (do
        let texts ← outcomeAll d (first :: rest) kind.precedence
        pure ((" " ++ keyword ++ " ").intercalate texts))
      = (do
        let texts ← outcomeAll d (first' :: rest') kind.precedence
        pure ((" " ++ keyword ++ " ").intercalate texts)) := by
    apply Outcome.map_injective (f := fun text => " " ++ keyword ++ " " ++ text)
    . intro text text' heq
      exact (String.append_right_inj _).1 heq
    . simpa only [bind_assoc, pure_bind] using hsame
  rw [outcome_chain hservice, outcome_chain hservice, htexts]

end Node

namespace Compiler

/--
Chains of one kind and keyword over the same operands compile alike wherever they stand, in every
state and for every demand. So conjunctions and disjunctions may be grouped and built in any way.
-/
theorem nestings_compile_alike (d : Dialect) :
    (∀ kind, (standard.withDialect d).lookup? kind = some Handler.chain →
      ∀ keyword first rest first' rest' leaves,
      Node.Opens kind keyword (first :: rest) leaves →
      Node.Opens kind keyword (first' :: rest') leaves →
      ∀ context, Node.IsContext context → ∀ p s, ∃ r,
        (standard.withDialect d).Compiles (context (.chain kind keyword first rest)) p s r ∧
        (standard.withDialect d).Compiles (context (.chain kind keyword first' rest')) p s r) ∧
    (∀ op a b c, ∃ flat, Node.chainOp op [a, b, c] = .ok flat ∧
      (Node.pair op a b).push c = flat ∧
      ∀ context, Node.IsContext context → ∀ p s, ∃ r,
        (standard.withDialect d).Compiles (context flat) p s r ∧
        (standard.withDialect d).Compiles (context (.pair op a (.pair op b c))) p s r ∧
        (standard.withDialect d).Compiles (context (.pair op (.pair op a b) c)) p s r) := by
  constructor
  . intro kind hlookup keyword first rest first' rest' leaves h h' context hcontext p s
    have hservice := service?_of_lookup?_chain hlookup
    exact (hcontext.interchangeable (h.interchangeable h' hservice)).compiles p s
  . intro op a b c
    refine ⟨.chain op.kind op.keyword a [b, c], rfl, rfl, ?_⟩
    intro context hcontext p s
    have hservice : op.kind.service? = some .chain := by cases op <;> rfl
    have hflat : Node.Opens op.kind op.keyword [a, b, c] [a, b, c] :=
      .leaf a (.leaf b (.leaf c .nil))
    have hright : Node.Opens op.kind op.keyword [a, .pair op b c] [a, b, c] :=
      .leaf a (.inner (.leaf b (.leaf c .nil)) .nil)
    have hleft : Node.Opens op.kind op.keyword [.pair op a b, c] [a, b, c] :=
      .inner (.leaf a (.leaf b .nil)) (.leaf c .nil)
    obtain ⟨r, hr, hpair⟩ :=
      (hcontext.interchangeable (hflat.interchangeable hright hservice)).compiles (d := d) p s
    obtain ⟨r', hr', hpair'⟩ :=
      (hcontext.interchangeable (hflat.interchangeable hleft hservice)).compiles (d := d) p s
    cases hr.unique hr'
    exact ⟨r, hr, hpair, hpair'⟩

/--
Two nestings of a chain that binds less tightly than a whole statement, below a negation.
-/
theorem nestings_compile_alike_xor :
    let c := standard.withDialect .generic
    let either : Kind := .special "either" Kind.Standard.booleanChain (some (.rightAssoc (-5)))
    let xor (first : Node) (rest : List Node) := Node.chain either "XOR" first rest
    let column (name : String) := Node.column none name
    let flag := Node.scalar (.bool true)
    let leaves := [column "a", flag, column "c"]
    let s' : State :=
      .ofRoot [("precedence", .precedence .loosest), ("parameters", .values [.bool true])]
    c.lookup? either = some Handler.chain ∧
      Node.Opens either "XOR" [xor (column "a") [], xor flag [column "c"]] leaves ∧
      Node.Opens either "XOR" [xor (column "a") [xor flag []], column "c"] leaves ∧
      Node.IsContext Node.not ∧
      c.Compiles (.not (xor (xor (column "a") []) [xor flag [column "c"]])) .loosest .new
        (.ok "NOT (a XOR ? XOR c)", s') ∧
      c.Compiles (.not (xor (xor (column "a") [xor flag []]) [column "c"])) .loosest .new
        (.ok "NOT (a XOR ? XOR c)", s') := by
  intro c either xor column flag leaves s'
  have hlookup : c.lookup? either = some Handler.chain := rfl
  have hright : Node.Opens either "XOR" [xor (column "a") [], xor flag [column "c"]] leaves :=
    .inner (.leaf _ .nil) (.inner (.leaf _ (.leaf _ .nil)) .nil)
  have hleft : Node.Opens either "XOR" [xor (column "a") [xor flag []], column "c"] leaves :=
    .inner (.leaf _ (.inner (.leaf _ .nil) .nil)) (.leaf _ .nil)
  have hnot : Node.IsContext Node.not := .unary _ _ .place
  obtain ⟨r, hr, hr'⟩ := (nestings_compile_alike .generic).1 either hlookup "XOR" _ _ _ _ leaves
    hright hleft Node.not hnot .loosest .new
  have hruns : c.Compiles (.not (xor (xor (column "a") []) [xor flag [column "c"]])) .loosest .new
      (.ok "NOT (a XOR ? XOR c)", s') := (compiles_standard_iff parameters_new).2 rfl
  cases hr.unique hruns
  exact ⟨hlookup, hright, hleft, hnot, hr, hr'⟩

end Compiler

end SqlExpr
