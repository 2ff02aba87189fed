import SqlExpr.Proofs.Replacement
import SqlExpr.Proofs.State.Stacked

/-!
This module contains which frames the replacement of a node is compiled in, for any handler
(`Compiler.replacement_frames`). One frame is hidden from the replacement. If the handler leaves
frames behind, it is one of those, and the other ones and the frame of the replaced node stay in
sight.
-/

namespace SqlExpr

namespace State

theorem exists_stacked_cutTo (s : State) (depth : Nat) :
    ∃ upper, s = stacked upper (s.cutTo depth) := by
  induction s with
  | root frame => exact ⟨[], rfl⟩
  | inner frame outer ih =>
    unfold cutTo
    split
    . exact ⟨[], rfl⟩
    . obtain ⟨upper, houter⟩ := ih
      refine ⟨frame :: upper, ?_⟩
      rw [stacked_cons, ← houter]

theorem cutTo_inner_of_le {view : State} {depth : Nat} (h : depth ≤ view.depth) (frame : Frame) :
    (inner frame view).cutTo depth = view.cutTo depth := by
  rw [cutTo, if_neg (by omega)]

/--
Without its innermost frame, a state is what is left of it at some depth if and only if it is deeper
by one.
-/
theorem eq_cutTo_inner_iff {view : State} {depth : Nat} (h : 0 < depth) (frame : Frame) :
    view = (inner frame view).cutTo depth ↔ view.depth = depth := by
  constructor
  . intro heq
    have hdepth := depth_cutTo (inner frame view) h
    rw [← heq] at hdepth
    simp only [State.depth] at hdepth
    omega
  . intro hdepth
    rw [cutTo_inner_of_le (by omega), cutTo_of_depth_le (by omega)]

theorem exists_stacked_inner {view : State} {depth : Nat} (hpos : 0 < depth)
    (h : depth < view.depth) :
    ∃ upper own, view = stacked upper (.inner own (view.cutTo depth)) := by
  obtain ⟨upper, hview⟩ := exists_stacked_cutTo view (depth + 1)
  have hdepth := depth_cutTo view (Nat.succ_pos depth)
  cases hcut : view.cutTo (depth + 1) with
  | root frame =>
    rw [hcut] at hdepth
    simp only [State.depth] at hdepth
    omega
  | inner own outer =>
    rw [hcut] at hview hdepth
    have houter : outer.depth = depth := by
      simp only [State.depth] at hdepth
      omega
    refine ⟨upper, own, ?_⟩
    rw [hview, ← houter, cutTo_stacked_outer]

end State

namespace Compiler

variable {c : Compiler} {node replacement : Node} {s : State}

/--
A replacement is compiled without the innermost of the frames that the handler leaves. These are the
frames of the caller if and only if the handler leaves as many frames as it was called with. If it
leaves more, the replacement sees another frame on top of those of the caller.
-/
theorem replacement_frames {after : State} (h : c.Makes node s (.replace replacement) after) :
    (∀ frame, after = .root frame → ∀ p, c.Compiles node p s (.error .rootScope, after)) ∧
    ∀ hidden view, after = .inner hidden view →
      (∀ p result s', c.Compiles node p s (result, s') ↔
        ∃ t, c.Compiles replacement p view (result, t) ∧
          s' = (State.inner hidden (t.cutTo view.depth)).cutTo s.depth) ∧
      (view = after.cutTo s.depth ↔ after.depth = s.depth + 1) ∧
      (s.depth + 1 < after.depth →
        ∃ upper own, view = .stacked upper (.inner own (after.cutTo s.depth))) := by
  obtain ⟨depth, handler, hlookup, hrun⟩ := h
  constructor
  . rintro frame rfl p
    refine ⟨depth + 1, ?_⟩
    rw [compileAt_of_lookup? hlookup, serveWith, hrun]
    rfl
  . rintro hidden view rfl
    -- The run of the handler is the same at any greater depth.
    have hdeep {deep : Nat} (hle : depth ≤ deep) (p : Precedence) :=
      compileAt_of_run_inner hlookup (Program.run_mono (c.compileAt_mono hle) hrun) p
    refine ⟨?_, ?_, ?_⟩
    . intro p result s'
      constructor
      . rintro ⟨depth', hcompile⟩
        have hlater := c.compileAt_mono (Nat.le_succ_of_le (Nat.le_max_right depth depth'))
          _ _ _ _ hcompile
        rw [hdeep (Nat.le_max_left _ _), Option.map_eq_some_iff] at hlater
        obtain ⟨⟨result', t⟩, hreplaced, heq⟩ := hlater
        cases heq
        exact ⟨t, ⟨_, hreplaced⟩, rfl⟩
      . rintro ⟨t, ⟨depth', hreplaced⟩, hs'⟩
        refine ⟨max depth depth' + 1, ?_⟩
        rw [hdeep (Nat.le_max_left _ _),
          c.compileAt_mono (Nat.le_max_right depth depth') _ _ _ _ hreplaced, hs']
        rfl
    . rw [State.eq_cutTo_inner_iff s.depth_pos]
      exact (Nat.add_left_inj).symm
    . intro hdepth
      have hlt : s.depth < view.depth := Nat.lt_of_succ_lt_succ hdepth
      rw [State.cutTo_inner_of_le (Nat.le_of_lt hlt)]
      exact State.exists_stacked_inner s.depth_pos hlt

/--
A handler that leaves two frames behind. The table that replaces the column sees the first of them,
and below it the frame of the column.
-/
theorem replacement_frames_two :
    let pushing : Handler := fun _ =>
      .perform (.push .empty) fun _ =>
      .perform (.push .empty) fun _ =>
      .done (.replace (.table "t"))
    let c := empty.register [Kind.Standard.column] pushing
    let own := State.demandFrame .tightest
    c.Makes (.column none "c") .new (.replace (.table "t"))
      (.stacked [.empty, .empty, own] .new) ∧
    (∀ p result s', c.Compiles (.column none "c") p .new (result, s') ↔
      ∃ t, c.Compiles (.table "t") p (.stacked [.empty, own] .new) (result, t) ∧
        s' = (State.inner .empty (t.cutTo 3)).cutTo 1) ∧
    ¬ State.stacked [.empty, own] .new = (State.stacked [.empty, .empty, own] .new).cutTo 1 := by
  intro pushing c own
  have hmakes : c.Makes (.column none "c") .new (.replace (.table "t"))
      (.stacked [.empty, .empty, own] .new) := ⟨0, pushing, rfl, rfl⟩
  obtain ⟨hcompiles, hview, _⟩ := (replacement_frames hmakes).2 _ _ rfl
  refine ⟨hmakes, hcompiles, ?_⟩
  intro heq
  exact absurd (hview.1 heq) (by decide)

/--
A table that is written as the number of frames it sees. It sees its own and that of the caller, but
a third one in the place of a column whose handler leaves a frame behind.
-/
theorem left_frame_shows_own :
    let counting : Handler := fun _ =>
      .perform .depth fun
        | .ok (.count n) => .done (.sql (Nat.repr n))
        | _ => .done (.sql "")
    let pushing : Handler := fun _ => .perform (.push .empty) fun _ => .done (.replace (.table "t"))
    let c := (empty.register [Kind.Standard.column] pushing).register [Kind.Standard.table] counting
    c.compile 2 (.table "t") = some (.ok ("2", [])) ∧
    c.compile 2 (.column none "c") = some (.ok ("3", [])) ∧
    (∃ view, c.Replaces (.column none "c", .new) (.table "t", view) ∧
      view.precedence = .ok .tightest ∧ State.new.precedence = .ok .loosest) ∧
    ¬ ∀ (c : Compiler) (node replacement : Node) (s view : State),
      c.Replaces (node, s) (replacement, view) → view.depth = s.depth := by
  intro counting pushing c
  have hreplaces : c.Replaces (.column none "c", .new)
      (.table "t", .inner (State.demandFrame .tightest) .new) :=
    ⟨_, ⟨0, pushing, rfl, rfl⟩, rfl⟩
  refine ⟨rfl, rfl, ⟨_, hreplaces, rfl, rfl⟩, ?_⟩
  intro h
  exact absurd (h _ _ _ _ _ hreplaces) (by decide)

end Compiler

end SqlExpr
