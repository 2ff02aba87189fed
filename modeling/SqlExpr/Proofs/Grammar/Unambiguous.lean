import SqlExpr.Proofs.Grammar.Reader
import SqlExpr.Proofs.Precedence

/-!
This module contains the proof that the grammar is unambiguous (`Reads.unique`): the reader, which is a
function, finds every phrase that tokens read as (`Reader.run_of_reads`). What is open has to accept the
phrase, and what comes after the tokens has to be allowed after it; then the reader goes on as if it
had found the phrase in one piece.
-/

namespace SqlExpr

namespace Precedence

variable {p q r : Precedence}

theorem AllowsLeft.le (h : p.AllowsLeft q) : p ≤ q := by
  unfold AllowsLeft at h
  split at h
  . exact h
  . exact le_of_lt h
  . exact le_of_lt h

theorem AllowsLeft.mono (h : p.AllowsLeft q) (hle : q ≤ r) : p.AllowsLeft r := by
  unfold AllowsLeft at *
  split at h
  . exact le_trans h hle
  . exact lt_of_lt_of_le h hle
  . exact lt_of_lt_of_le h hle

theorem query_lt_iff : query < p ↔ clause ≤ p := by
  have hquery : query.key + 1 = clause.key := by decide
  rw [lt_iff_key_lt, le_iff_key_le]
  omega

end Precedence

theorem Infix.loosest_le (op : Infix) : .loosest ≤ op.precedence := by
  cases op with
  | operator op => cases op <;> decide
  | setOperation op => cases op <;> decide

theorem Infix.precedence_ne_chained (op : Infix) (op' : ChainOp) :
    op.precedence ≠ op'.kind.precedence := by
  cases op' <;> cases op with
  | operator op => cases op <;> decide
  | setOperation op => cases op <;> decide

namespace Open

theorem Accepts.mono {o : Open} {p q : Precedence} (h : o.Accepts p) (hle : p ≤ q) :
    o.Accepts q := by
  cases o with
  | brackets => trivial
  | prefixed op => exact Precedence.le_trans h hle
  | infixed left op => exact Precedence.lt_of_lt_of_le h hle
  | chained ts op => exact Precedence.lt_of_lt_of_le h hle
  | qualifier s => exact h
  | args s ts => exact Precedence.lt_of_lt_of_le h hle
  | clause q c => exact Precedence.lt_of_lt_of_le h hle

theorem holds_of_accepts {o : Open} {p : Precedence} (h : o.Accepts p) : o.holds p = true := by
  cases o with
  | brackets | qualifier | args => rfl
  | prefixed | infixed | clause => exact decide_eq_true h
  | chained ts op => exact decide_eq_true (Precedence.le_of_lt h)

end Open

/--
Whether a phrase with a given precedence may stand in what is open innermost, if anything is.
-/
def TopAccepts (stack : List Open) (p : Precedence) : Prop :=
  ∀ o ∈ stack.head?, o.Accepts p

/--
Whether tokens may come after a phrase with a given precedence.
-/
def MayFollow (toks : List Token) (p : Precedence) : Prop :=
  ∃ next, Next.of? toks = some next ∧ next.Allows p

theorem TopAccepts.mono {stack : List Open} {p q : Precedence} (h : TopAccepts stack p)
    (hle : p ≤ q) : TopAccepts stack q := fun o hmem => (h o hmem).mono hle

theorem topAccepts_cons {o : Open} {stack : List Open} {p : Precedence} :
    TopAccepts (o :: stack) p ↔ o.Accepts p := by
  simp [TopAccepts]

theorem close_of_topAccepts {stack : List Open} {p : Precedence} (h : TopAccepts stack p)
    (t : Phrase) : close p t stack = (t, stack) := by
  cases stack with
  | nil => rfl
  | cons o stack =>
    rw [topAccepts_cons] at h
    simp only [close, if_pos (Open.holds_of_accepts h)]

namespace Next

theorem Allows.mono {next : Next} {p q : Precedence} (h : next.Allows p) (hle : p ≤ q) :
    next.Allows q := by
  cases next with
  | infixed op => exact Precedence.AllowsLeft.mono h hle
  | chained op => exact Precedence.lt_of_lt_of_le h hle
  | clause | comma => exact Precedence.lt_of_lt_of_le h hle
  | closing => trivial

theorem reach_le {next : Next} {p : Precedence} (h : next.Allows p) (hp : .loosest ≤ p) :
    next.reach ≤ p := by
  cases next with
  | infixed op => exact Precedence.AllowsLeft.le h
  | chained op => exact Precedence.le_of_lt h
  | clause | comma => exact Precedence.query_lt_iff.1 h
  | closing => exact hp

theorem reach_lt {next : Next} {p : Precedence} (hinfixed : ∀ op : Infix, op.precedence ≠ p)
    (hclause : .clause < p) (h : next.Allows p) : next.reach < p := by
  cases next with
  | infixed op => exact Precedence.lt_of_le_of_ne (Precedence.AllowsLeft.le h) (hinfixed op)
  | chained op => exact h
  | clause | comma => exact hclause
  | closing => exact Precedence.lt_of_le_of_lt (by decide) hclause

theorem reach_lt_prefixed {next : Next} {op : UnaryOp} (h : next.Allows op.kind.precedence) :
    next.reach < op.kind.precedence := by
  apply reach_lt _ _ h
  . intro op'
    cases op <;> cases op' with
    | operator op' => cases op' <;> decide
    | setOperation op' => cases op' <;> decide
  . cases op <;> decide

theorem reach_lt_chained {next : Next} {op : ChainOp} (h : next.Allows op.kind.precedence) :
    next.reach < op.kind.precedence := by
  apply reach_lt (fun op' => op'.precedence_ne_chained op) _ h
  cases op <;> decide

end Next

theorem MayFollow.mono {toks : List Token} {p q : Precedence} (h : MayFollow toks p)
    (hle : p ≤ q) : MayFollow toks q := by
  obtain ⟨next, hnext, hallows⟩ := h
  exact ⟨next, hnext, hallows.mono hle⟩

namespace Reader

theorem of?_singleton {tok : Token} {toks : List Token} {next : Next}
    (h : Next.of? (tok :: toks) = some next) : Next.of? [tok] = some next := by
  rw [← h]
  cases tok <;> rfl

theorem run_after_cons {o : Open} {next : Next} {toks : List Token} (hnext : Next.of? toks = some next)
    (ho : o.holds next.reach = false) (t : Phrase) (stack : List Open) :
    run toks (.after t (o :: stack)) = run toks (.after (o.finish t) stack) := by
  have hclose : close next.reach t (o :: stack) = close next.reach (o.finish t) stack := by
    simp only [close, ho, Bool.false_eq_true, if_false]
  -- At the end of the tokens everything is closed, as a closing bracket would do.
  cases toks with
  | nil =>
    cases hnext
    simp only [run, result?]
    rw [show Precedence.loosest = Next.closing.reach from rfl, hclose]
  | cons tok toks =>
    simp only [run, step, of?_singleton hnext, hclose]

theorem run_afterClause {toks : List Token} (h : MayFollow toks .query) (q : Query Phrase)
    (stack : List Open) :
    run toks (.afterClause q stack) = run toks (.after (.select q) stack) := by
  obtain ⟨next, hnext, hallows⟩ := h
  cases toks with
  | nil => rfl
  | cons tok toks =>
    have hone := of?_singleton hnext
    cases next with
    | clause c =>
      have hlt : Precedence.query < .query := hallows
      exact absurd hlt (by decide)
    | _ => simp only [run, step, hone]

/--
Whether tokens may come after a clause: another clause, or what may come after the query.
-/
def EndsClause (toks : List Token) : Prop :=
  MayFollow toks .query ∨ ∃ c, Next.of? toks = some (.clause c)

theorem run_after_clause {toks : List Token} (h : EndsClause toks) (t : Phrase)
    (q : Query Phrase) (c : Clause) (stack : List Open) :
    run toks (.after t (.clause q c :: stack)) = run toks (.afterClause (q.add c t) stack) := by
  rcases h with h | ⟨c', hnext⟩
  . rw [run_afterClause h]
    obtain ⟨next, hnext, hallows⟩ := h
    apply run_after_cons hnext
    simp only [Open.holds, decide_eq_false_iff_not]
    apply Precedence.not_lt_of_le (Next.reach_le hallows (by decide))
  . cases toks with
    | nil => cases hnext
    | cons tok toks =>
      have hone := of?_singleton hnext
      have hclose : close (Next.clause c').reach t (.clause q c :: stack)
          = (t, .clause q c :: stack) := rfl
      simp only [run, step, hone, hclose, goOn]

/-! The single tokens. -/

variable {stack : List Open} {p : Precedence}

theorem run_name (s : String) (h : TopAccepts stack p) (toks : List Token) :
    run (.name s :: toks) (.before stack) = run toks (.after (.name none s) stack) := by
  cases stack with
  | nil => rfl
  | cons o stack =>
    rw [topAccepts_cons] at h
    cases o with
    | qualifier s' => cases h
    | _ => rfl

theorem run_prefixed (op : UnaryOp) (h : TopAccepts stack op.kind.precedence) (toks : List Token) :
    run (.mark op.mark :: toks) (.before stack) = run toks (.before (.prefixed op :: stack)) := by
  cases op with
  | plus | minus => rfl
  | not =>
    cases stack with
    | nil => rfl
    | cons o stack =>
      rw [topAccepts_cons] at h
      cases o with
      | infixed left op' =>
        cases op' with
        | setOperation op' => rfl
        | operator op' =>
          cases op' with
          | is =>
            -- After `IS` this would be the second mark of `IS NOT`, but `IS` accepts no
            -- negation.
            have hlt : Kind.Standard.is.precedence < Kind.Standard.not.precedence := h
            exact absurd hlt (by decide)
          | _ => rfl
      | _ => rfl

/-! The tokens after a phrase, and the phrases that they are part of. -/

variable {t : Phrase}

theorem run_mark {m : Mark} {next : Next} (hnext : m.next? = some next) {t' : Phrase}
    {stack' : List Open} (hclose : close next.reach t stack = (t', stack')) {r : Reader}
    (hgo : goOn next (t', stack') = some r) (toks : List Token) :
    run (.mark m :: toks) (.after t stack) = run toks r := by
  simp only [run, step, Next.of?, hnext, hclose, hgo]

theorem run_infixed_mark {m : Mark} {op : Infix} (hnext : m.next? = some (.infixed op))
    (h : TopAccepts stack op.precedence) (toks : List Token) :
    run (.mark m :: toks) (.after t stack) = run toks (.before (.infixed t op :: stack)) :=
  run_mark hnext (close_of_topAccepts h t) rfl toks

theorem run_infixed (op : Infix) (h : TopAccepts stack op.precedence) (toks : List Token) :
    run (op.tokens ++ toks) (.after t stack) = run toks (.before (.infixed t op :: stack)) := by
  cases op with
  | operator op =>
    cases op with
    | isNot => exact (run_infixed_mark (m := .is) rfl h _).trans rfl
    | notIn => exact (run_infixed_mark (m := .not) rfl h _).trans rfl
    | _ => exact run_infixed_mark rfl h toks
  | setOperation op => cases op <;> exact run_infixed_mark rfl h toks

theorem mayFollow_infixed {op : Infix} (h : op.precedence.AllowsLeft p) (toks : List Token) :
    MayFollow (op.tokens ++ toks) p := by
  cases op with
  | operator op => cases op <;> exact ⟨_, rfl, h⟩
  | setOperation op => cases op <;> exact ⟨_, rfl, h⟩

theorem next?_chained (op : ChainOp) : op.mark.next? = some (.chained op) := by
  cases op <;> rfl

/--
Whether tokens are read as a phrase in every place where a phrase of a given precedence may stand.
-/
def RunsAs (toks : List Token) (p : Precedence) (t : Phrase) : Prop :=
  ∀ stack rest, TopAccepts stack p → MayFollow rest p →
    run (toks ++ rest) (.before stack) = run rest (.after t stack)

theorem run_separated {m : Mark} {o : List Phrase → Open}
    (hseparator : ∀ ts t toks, run (.mark m :: toks) (.after t (o ts :: stack))
      = run toks (.before (o (ts ++ [t]) :: stack)))
    {items : List Reading} {last : Reading} {rest : List Token}
    (haccepts : ∀ item ∈ items ++ [last], ∀ ts, (o ts).Accepts item.precedence)
    (hfollow : ∀ item ∈ items ++ [last], ∀ toks, MayFollow (.mark m :: toks) item.precedence)
    (hrest : MayFollow rest last.precedence)
    (h : ∀ item ∈ items ++ [last], RunsAs item.tokens item.precedence item.phrase)
    (ts : List Phrase) :
    run ([Token.mark m].intercalate ((items ++ [last]).map (·.tokens)) ++ rest)
      (.before (o ts :: stack))
      =
    run rest (.after last.phrase (o (ts ++ items.map (·.phrase)) :: stack)) := by
  induction items generalizing ts with
  | nil =>
    have hlast := haccepts last List.mem_cons_self ts
    simp only [List.nil_append, List.map_cons, List.map_nil, List.intercalate_singleton,
      List.append_nil]
    apply h last List.mem_cons_self _ _ (topAccepts_cons.2 hlast) hrest
  | cons item items ih =>
    rw [List.cons_append, List.forall_mem_cons] at haccepts hfollow h
    have hne : (items ++ [last]).map (·.tokens) ≠ [] := by simp
    rw [List.cons_append, List.map_cons, List.intercalate_cons_of_ne_nil hne]
    simp only [List.append_assoc, List.cons_append, List.nil_append]
    rw [h.1 _ _ (topAccepts_cons.2 (haccepts.1 ts)) (hfollow.1 _), hseparator]
    rw [ih haccepts.2 hfollow.2 h.2, List.append_assoc]
    rfl

theorem run_first_chained (op : ChainOp) (h : TopAccepts stack op.kind.precedence)
    (toks : List Token) :
    run (.mark op.mark :: toks) (.after t stack) = run toks (.before (.chained [t] op :: stack)) := by
  apply run_mark (next?_chained op) (close_of_topAccepts h t)
  cases stack with
  | nil => rfl
  | cons o stack =>
    rw [topAccepts_cons] at h
    cases o with
    | chained ts op' =>
      -- What accepts a phrase of this precedence is no chain of the same keyword.
      have hne : op' ≠ op := by
        intro heq
        rw [heq] at h
        exact Precedence.not_lt_of_le (Precedence.le_refl _) h
      simp only [goOn, if_neg hne]
    | _ => rfl

theorem run_chained (op : ChainOp) {items : List Reading} {last : Reading}
    (hitems : ∀ item ∈ items ++ [last], op.kind.precedence < item.precedence)
    (h : ∀ item ∈ items ++ [last], RunsAs item.tokens item.precedence item.phrase)
    (ts : List Phrase) {rest : List Token} (hrest : MayFollow rest op.kind.precedence) :
    run ([Token.mark op.mark].intercalate ((items ++ [last]).map (·.tokens)) ++ rest)
      (.before (.chained ts op :: stack))
      =
    run rest (.after (.chained op.keyword (ts ++ (items ++ [last]).map (·.phrase))) stack) := by
  have hlast := hitems last (by simp)
  rw [run_separated (o := fun ts => .chained ts op) _ (fun item hmem _ => hitems item hmem) _
    (hrest.mono (Precedence.le_of_lt hlast)) h]
  -- What may come after the chain does not hold it open.
  . obtain ⟨next, hnext, hallows⟩ := hrest
    rw [run_after_cons hnext]
    . simp [Open.finish]
    . simp only [Open.holds, decide_eq_false_iff_not, Precedence.not_le]
      apply Next.reach_lt_chained hallows
  . intro ts t toks
    have hclose : close (Next.chained op).reach t (.chained ts op :: stack)
        = (t, .chained ts op :: stack) := by
      simp [close, Open.holds, Next.reach, Precedence.le_refl]
    apply run_mark (next?_chained op) hclose
    simp [goOn]
  . intro item hmem toks
    exact ⟨_, next?_chained op, hitems item hmem⟩

theorem run_args (s : String) {args : List Reading} (hargs : ∀ arg ∈ args, .query < arg.precedence)
    (h : ∀ arg ∈ args, RunsAs arg.tokens arg.precedence arg.phrase) (rest : List Token) :
    run (listTokens (args.map (·.tokens)) ++ ([.mark .closing] ++ rest))
      (.before (.args s [] :: stack))
      =
    run rest (.after (.call s (args.map (·.phrase))) stack) := by
  cases args using List.reverseRecOn with
  | nil => rfl
  | append_singleton args last =>
    have hcomma : ∀ arg ∈ args ++ [last], ∀ toks,
        MayFollow (.mark .comma :: toks) arg.precedence :=
      fun arg hmem toks => ⟨.comma, rfl, hargs arg hmem⟩
    have hclosing : MayFollow ([.mark .closing] ++ rest) last.precedence :=
      ⟨.closing, rfl, trivial⟩
    rw [listTokens, run_separated (o := .args s) (fun ts t toks => rfl)
      (fun arg hmem _ => hargs arg hmem) hcomma hclosing h]
    have hclose : close Next.closing.reach last.phrase (.args s (args.map (·.phrase)) :: stack)
        = (last.phrase, .args s (args.map (·.phrase)) :: stack) := rfl
    rw [List.singleton_append, List.nil_append, run_mark rfl hclose rfl]
    simp [Open.finish]

/-! Queries. -/

def addAll (q : Query Phrase) (c : Clause) (ts : List Phrase) : Query Phrase :=
  ts.foldl (fun q t => q.add c t) q

theorem endsClause_clauseTokens {m : Mark} {c : Clause} (hm : m.next? = some (.clause c))
    (ms : List Mark) (toks : List (List Token)) {rest : List Token} (h : EndsClause rest) :
    EndsClause (clauseTokens (m :: ms) toks ++ rest) := by
  unfold clauseTokens
  split
  . exact h
  . exact .inr ⟨c, hm⟩

theorem endsClause_countTokens {m : Mark} {c : Clause} (hm : m.next? = some (.clause c))
    (count? : Option UInt64) {rest : List Token} (h : EndsClause rest) :
    EndsClause (countTokens m count? ++ rest) := by
  cases count? with
  | none => exact h
  | some count => exact .inr ⟨c, hm⟩

theorem run_clauseList (q : Query Phrase) (c : Clause) {items : List Reading} (hne : items ≠ [])
    (hitems : ∀ item ∈ items, .query < item.precedence)
    (h : ∀ item ∈ items, RunsAs item.tokens item.precedence item.phrase) {rest : List Token}
    (hrest : EndsClause rest) :
    run (listTokens (items.map (·.tokens)) ++ rest) (.before (.clause q c :: stack))
      =
    run rest (.afterClause (addAll q c (items.map (·.phrase))) stack) := by
  cases items using List.reverseRecOn with
  | nil => contradiction
  | append_singleton items last =>
    have hseparator (ts : List Phrase) (t : Phrase) (toks : List Token) :
        run (.mark .comma :: toks) (.after t (.clause (addAll q c ts) c :: stack))
          = run toks (.before (.clause (addAll q c (ts ++ [t])) c :: stack)) := by
      have hadd : addAll q c (ts ++ [t]) = (addAll q c ts).add c t := by simp [addAll]
      rw [hadd]
      rfl
    have hcomma : ∀ item ∈ items ++ [last], ∀ toks,
        MayFollow (.mark .comma :: toks) item.precedence :=
      fun item hmem toks => ⟨.comma, rfl, hitems item hmem⟩
    have hlast : MayFollow rest last.precedence := by
      rcases hrest with hrest | ⟨c', hnext⟩
      . exact hrest.mono (Precedence.le_of_lt (hitems last (by simp)))
      . exact ⟨_, hnext, hitems last (by simp)⟩
    have hlist := run_separated (o := fun ts => .clause (addAll q c ts) c) hseparator
      (fun item hmem _ => hitems item hmem) hcomma hlast h []
    rw [listTokens]
    refine hlist.trans ?_
    rw [run_after_clause hrest]
    simp [addAll]

theorem run_clause {m : Mark} {c : Clause} (hm : m.next? = some (.clause c)) {ms : List Mark}
    (hms : ms = [m] ∨ ms = [m, .by]) (q : Query Phrase) {items : List Reading}
    (hitems : ∀ item ∈ items, .query < item.precedence)
    (h : ∀ item ∈ items, RunsAs item.tokens item.precedence item.phrase) {rest : List Token}
    (hrest : EndsClause rest) :
    run (clauseTokens ms (items.map (·.tokens)) ++ rest) (.afterClause q stack)
      =
    run rest (.afterClause (addAll q c (items.map (·.phrase))) stack) := by
  cases items with
  | nil => rfl
  | cons item items =>
    rw [← run_clauseList q c (List.cons_ne_nil _ _) hitems h hrest]
    unfold clauseTokens
    rw [List.map_cons, if_neg (by simp)]
    rcases hms with hms | hms
    all_goals
      rw [hms]
      simp only [List.map_cons, List.map_nil, List.cons_append, List.nil_append, run, step,
        Next.of?, hm]
    rfl

theorem run_count {m : Mark} {c : Clause} (hm : m.next? = some (.clause c)) (q : Query Phrase)
    (count? : Option UInt64) (rest : List Token) :
    run (countTokens m count? ++ rest) (.afterClause q stack)
      =
    run rest (.afterClause (count?.elim q fun n => q.count c n) stack) := by
  cases count? with
  | none => rfl
  | some n =>
    simp only [countTokens, List.cons_append, List.nil_append, run, step, Next.of?, hm, stepBefore,
      UInt64.ofNat_toNat, Option.elim_some]

theorem run_columns (q : Query Phrase) {items : List Reading}
    (hitems : ∀ item ∈ items, .query < item.precedence)
    (h : ∀ item ∈ items, RunsAs item.tokens item.precedence item.phrase) {rest : List Token}
    (hrest : EndsClause rest) :
    run ((if (items.map (·.tokens)).isEmpty then [Token.mark .star]
      else listTokens (items.map (·.tokens))) ++ rest) (.before (.clause q .columns :: stack))
      =
    run rest (.afterClause (addAll q .columns (items.map (·.phrase))) stack) := by
  cases items with
  | nil => rfl
  | cons item items =>
    rw [if_neg (by simp)]
    apply run_clauseList q .columns (List.cons_ne_nil _ _) hitems h hrest

def append (q : Query Phrase) : Clause → List Phrase → Query Phrase
  | .columns, ts => { q with columns := q.columns ++ ts }
  | .sources, ts => { q with sources := q.sources ++ ts }
  | .filter, ts => { q with filter := ts.getLast?.or q.filter }
  | .groups, ts => { q with groups := q.groups ++ ts }
  | .groupFilter, ts => { q with groupFilter := ts.getLast?.or q.groupFilter }
  | .order, ts => { q with order := q.order ++ ts }
  | .limit, _ => q
  | .offset, _ => q

theorem addAll_eq_append (q : Query Phrase) (c : Clause) (ts : List Phrase) :
    addAll q c ts = append q c ts := by
  induction ts generalizing q with
  | nil => cases c <;> simp [addAll, append]
  | cons t ts ih =>
    change addAll (q.add c t) c ts = _
    rw [ih]
    cases c <;> simp [append, Query.add, Query.addColumn, Query.addColumns, Query.addSource,
      Query.setFilter, Query.addGroup, Query.setGroupFilter, Query.addOrder, List.getLast?_cons]

theorem run_start (distinct : Bool) (toks : List Token) :
    run ((.mark .select :: if distinct then [Token.mark .distinct] else []) ++ toks)
      (.before stack)
      =
    run toks (.before (.clause { Query.empty with distinct := distinct } .columns :: stack)) := by
  cases distinct <;> rfl

theorem run_select {q : Query Reading} (hparts : ∀ part ∈ q.parts, .query < part.precedence)
    (h : ∀ part ∈ q.parts, RunsAs part.tokens part.precedence part.phrase) {rest : List Token}
    (hrest : MayFollow rest .query) :
    run ((q.map (·.tokens)).tokens ++ rest) (.before stack)
      =
    run rest (.after (.select (q.map (·.phrase))) stack) := by
  obtain ⟨distinct, columns, sources, filter, groups, groupFilter, order, limit, offset⟩ := q
  simp only [Query.parts, List.mem_append, or_imp, forall_and] at hparts h
  obtain ⟨⟨⟨⟨⟨pcolumns, psources⟩, pfilter⟩, pgroups⟩, pgroupFilter⟩, porder⟩ := hparts
  obtain ⟨⟨⟨⟨⟨hcolumns, hsources⟩, hfilter⟩, hgroups⟩, hgroupFilter⟩, horder⟩ := h
  -- From the last clause to the first: what is left of the query may come after each of them.
  have hend : EndsClause rest := .inl hrest
  have hoffset := endsClause_countTokens (m := .offset) rfl offset hend
  have hlimit := endsClause_countTokens (m := .limit) rfl limit hoffset
  have horderBy := endsClause_clauseTokens (m := .order) rfl [.by] (order.map (·.tokens)) hlimit
  have hhaving := endsClause_clauseTokens (m := .having) rfl [] (groupFilter.toList.map (·.tokens))
    horderBy
  have hgroupBy := endsClause_clauseTokens (m := .group) rfl [.by] (groups.map (·.tokens)) hhaving
  have hwhere := endsClause_clauseTokens (m := .where) rfl [] (filter.toList.map (·.tokens)) hgroupBy
  have hfrom := endsClause_clauseTokens (m := .from) rfl [] (sources.map (·.tokens)) hwhere
  simp only [Query.tokens, Query.map, Option.toList_map, List.append_assoc, List.singleton_append]
  refine (run_start distinct _).trans ?_
  refine (run_columns _ pcolumns hcolumns hfrom).trans ?_
  rw [run_clause rfl (.inl rfl) _ psources hsources hwhere]
  rw [run_clause rfl (.inl rfl) _ pfilter hfilter hgroupBy]
  rw [run_clause rfl (.inr rfl) _ pgroups hgroups hhaving]
  rw [run_clause rfl (.inl rfl) _ pgroupFilter hgroupFilter horderBy]
  rw [run_clause rfl (.inr rfl) _ porder horder hlimit]
  rw [run_count rfl, run_count rfl, run_afterClause hrest]
  simp only [addAll_eq_append]
  cases filter <;> cases groupFilter <;> cases limit <;> cases offset <;> rfl

theorem run_of_reads {toks : List Token} (h : Reads p toks t) : RunsAs toks p t := by
  -- Operands are read by the induction hypothesis, in a stack on which their operator is open.
  induction h with
  | placeholder | null =>
    intro stack rest _ _
    rfl
  | name s =>
    intro stack rest haccepts _
    apply run_name s haccepts
  | qualified s s' =>
    intro stack rest haccepts _
    exact run_name s haccepts _
  | @bracketed p toks t hp h ih =>
    intro stack rest _ _
    have haccepts : TopAccepts (.brackets :: stack) p := topAccepts_cons.2 trivial
    have hclosing : MayFollow ([.mark .closing] ++ rest) p := ⟨.closing, rfl, trivial⟩
    change run (toks ++ [.mark .closing] ++ rest) (.before (.brackets :: stack)) = _
    rw [List.append_assoc, ih _ _ haccepts hclosing]
    rfl
  | @prefixed op p toks t hp h ih =>
    intro stack rest haccepts hrest
    have hoperand : TopAccepts (.prefixed op :: stack) p := topAccepts_cons.2 hp
    rw [List.append_assoc, List.singleton_append, run_prefixed op haccepts]
    rw [ih _ _ hoperand (hrest.mono hp)]
    obtain ⟨next, hnext, hallows⟩ := hrest
    apply run_after_cons hnext
    simp only [Open.holds, decide_eq_false_iff_not, Precedence.not_le]
    apply Next.reach_lt_prefixed hallows
  | @infixed op p p' toks toks' t t' hleft hright h h' ih ih' =>
    intro stack rest haccepts hrest
    have hoperand : TopAccepts (.infixed t op :: stack) p' := topAccepts_cons.2 hright
    rw [List.append_assoc, List.append_assoc]
    rw [ih _ _ (haccepts.mono hleft.le) (mayFollow_infixed hleft _), run_infixed op haccepts]
    rw [ih' _ _ hoperand (hrest.mono (Precedence.le_of_lt hright))]
    obtain ⟨next, hnext, hallows⟩ := hrest
    apply run_after_cons hnext
    simp only [Open.holds, decide_eq_false_iff_not]
    apply Precedence.not_lt_of_le (Next.reach_le hallows op.loosest_le)
  | @chained op items htwo hitems h ih =>
    intro stack rest haccepts hrest
    cases items with
    | nil => contradiction
    | cons first items =>
      rw [List.forall_mem_cons] at hitems ih
      cases items using List.reverseRecOn with
      | nil => contradiction
      | append_singleton items last =>
        have hfirst : MayFollow (.mark op.mark :: ([Token.mark op.mark].intercalate
            ((items ++ [last]).map (·.tokens)) ++ rest)) first.precedence :=
          ⟨_, next?_chained op, hitems.1⟩
        have hne : (items ++ [last]).map (·.tokens) ≠ [] := by simp
        rw [List.map_cons, List.intercalate_cons_of_ne_nil hne]
        simp only [List.append_assoc, List.cons_append, List.nil_append]
        rw [ih.1 _ _ (haccepts.mono (Precedence.le_of_lt hitems.1)) hfirst]
        rw [run_first_chained op haccepts, run_chained op hitems.2 ih.2 _ hrest]
        rfl
  | @call s args hargs h ih =>
    intro stack rest haccepts _
    have hopen : run ([.name s, .mark .opening] ++ (listTokens (args.map (·.tokens))
        ++ ([.mark .closing] ++ rest))) (.before stack)
        = run (listTokens (args.map (·.tokens)) ++ ([.mark .closing] ++ rest))
          (.before (.args s [] :: stack)) := run_name s haccepts _
    rw [List.append_assoc, List.append_assoc, hopen]
    apply run_args s hargs ih
  | select hparts h ih =>
    intro stack rest _ hrest
    apply run_select hparts ih hrest

end Reader

theorem Reads.run_eq {p : Precedence} {toks : List Token} {t : Phrase} (h : Reads p toks t) :
    Reader.run toks (.before []) = some t := by
  have hend : MayFollow [] p := ⟨.closing, rfl, trivial⟩
  have hrun := Reader.run_of_reads h [] [] nofun hend
  rw [List.append_nil] at hrun
  rw [hrun]
  rfl

/--
Tokens read as one phrase at most.
-/
theorem Reads.unique {p p' : Precedence} {toks : List Token} {t t' : Phrase} (h : Reads p toks t)
    (h' : Reads p' toks t') : t = t' := by
  have hrun := h.run_eq
  rw [h'.run_eq, Option.some.injEq] at hrun
  exact hrun.symm

end SqlExpr
