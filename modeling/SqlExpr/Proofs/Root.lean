import SqlExpr.Proofs.Session
import SqlExpr.Proofs.State.Compact
import SqlExpr.Proofs.State.Effect
import SqlExpr.Proofs.State.Push

/-!
This module contains the proof that the root of a stack survives every session
(`Session.root_survives`). Frames are removed by pops, hidden by views and truncated where guards are
closed, at depths that were written down when they were opened, but none of this reaches the root.
Writes to the root are all that happens to it, so it binds every name that it ever bound.

A stack is a list here that may become empty. That it does not is carried over from states
(`Session.toStack_run`), whose root is only written to (`Session.bottom_run`).
-/

namespace SqlExpr

namespace Frame

/--
Whether a frame comes from another one by writes to names that may be written to.
-/
def Grows (may : String → Prop) (frame frame' : Frame) : Prop :=
  ∃ writes : List (String × Attribute), (∀ write ∈ writes, may write.1) ∧
    frame' = frame.insertAll writes

variable {may : String → Prop} {frame frame' : Frame}

theorem Grows.refl (may : String → Prop) (frame : Frame) : frame.Grows may frame :=
  ⟨[], List.forall_mem_nil _, rfl⟩

theorem Grows.trans {between : Frame} (h : frame.Grows may between)
    (h' : between.Grows may frame') : frame.Grows may frame' := by
  obtain ⟨writes, hwrites, rfl⟩ := h
  obtain ⟨later, hlater, rfl⟩ := h'
  exact ⟨writes ++ later, List.forall_mem_append.2 ⟨hwrites, hlater⟩,
    (NameMap.insertAll_append frame writes later).symm⟩

theorem Grows.mono {may' : String → Prop} (h : frame.Grows may frame')
    (hmay : ∀ name, may name → may' name) : frame.Grows may' frame' := by
  obtain ⟨writes, hwrites, rfl⟩ := h
  exact ⟨writes, fun write hmem => hmay _ (hwrites write hmem), rfl⟩

theorem grows_insert {name : String} (hname : may name) (frame : Frame) (a : Attribute) :
    frame.Grows may (frame.insert name a) :=
  ⟨[(name, a)], List.forall_mem_singleton.2 hname, rfl⟩

theorem Grows.names (h : frame.Grows may frame') : frame.names <+: frame'.names := by
  obtain ⟨writes, hwrites, rfl⟩ := h
  clear hwrites
  induction writes generalizing frame with
  | nil => exact List.prefix_rfl
  | cons write writes ih =>
    rw [NameMap.insertAll_cons]
    refine List.IsPrefix.trans ?_ ih
    rw [NameMap.names_insert]
    split
    . exact List.prefix_rfl
    . exact List.prefix_append _ _

theorem Grows.get? (h : frame.Grows may frame') {name : String} (hname : ¬ may name) :
    frame'.get? name = frame.get? name := by
  obtain ⟨writes, hwrites, rfl⟩ := h
  apply NameMap.get?_insertAll_of_notMem
  intro hmem
  obtain ⟨write, hwrite, rfl⟩ := List.mem_map.1 hmem
  exact hname (hwrites write hwrite)

end Frame

namespace State

variable {may : String → Prop} {s s' : State}

theorem bottom_set {name : String} (hname : may name) (s : State) (a : Attribute) :
    s.bottom.Grows may (s.set name a).bottom := by
  induction s with
  | root frame =>
    rw [set_root]
    exact Frame.grows_insert hname frame a
  | inner frame outer ih =>
    rcases set_inner_cases frame outer name a with h | ⟨_, _, h⟩
    . rw [h]
      exact .refl may _
    . rw [h]
      exact ih

@[simp]
theorem bottom_cutTo (s : State) (depth : Nat) : (s.cutTo depth).bottom = s.bottom := by
  induction s with
  | root frame => rfl
  | inner frame outer ih =>
    simp only [cutTo]
    split
    . rfl
    . exact ih

theorem bottom_push {b : Bindings} (h : s.push b = .ok s') : s'.bottom = s.bottom := by
  obtain ⟨copied, _, rfl⟩ := push_eq_ok_iff.1 h
  rfl

theorem bottom_pop (h : s.pop = .ok s') : s'.bottom = s.bottom := by
  cases s with
  | root frame => cases h
  | inner frame outer =>
    cases h
    rfl

theorem bottom_effect {op : Operation} (hop : ∀ name, op.target? = some name → may name)
    (h : op.Effect s s') : s.bottom.Grows may s'.bottom := by
  cases h with
  | none => exact .refl may _
  | write name a hname => exact bottom_set (hop name hname) s a
  | push b _ hpush =>
    rw [bottom_push hpush]
    exact .refl may _
  | pop _ hpop =>
    rw [bottom_pop hpop]
    exact .refl may _

theorem bottom_enter {guard : Guard} (h : guard.enter s = .ok s') : s'.bottom = s.bottom := by
  cases guard with
  | scope b => exact bottom_push h
  | parentView => exact bottom_pop h

theorem bottom_close (opened : OpenGuard) (s : State) : (opened.close s).bottom = s.bottom := by
  have hcut : (FrameStack.truncate opened.base s).bottom = s.bottom := bottom_cutTo s opened.base
  cases opened with
  | scope depth => exact hcut
  | parentView hidden? depth => cases hidden? <;> exact hcut

theorem getLast?_frames (s : State) : s.frames.getLast? = some s.bottom := by
  induction s with
  | root frame => rfl
  | inner frame outer ih => rw [frames_inner, List.getLast?_cons, ih, Option.getD_some, bottom]

theorem isSome_get?_of_bottom {name : String} (h : name ∈ s.bottom.names) :
    (s.get? name).isSome := by
  induction s with
  | root frame => exact (NameMap.mem_names_iff frame name).1 h
  | inner frame outer ih => simp [get?, ih h]

theorem apply_ne_noSuchAttribute {t : State}
    (hprecedence : (t.get? Attribute.precedenceName).isSome)
    (hparameters : (t.get? Attribute.parametersName).isSome) {op : Operation} {v : Value}
    (hop : op ∈ [.get Attribute.precedenceName, .get Attribute.parametersName,
      .precedence, .parameters, .bind v]) (name : String) :
    (op.apply t).1 ≠ .error (.noSuchAttribute name) := by
  obtain ⟨a, ha⟩ := Option.isSome_iff_exists.1 hprecedence
  obtain ⟨a', ha'⟩ := Option.isSome_iff_exists.1 hparameters
  simp only [List.mem_cons, List.not_mem_nil, or_false] at hop
  rcases hop with rfl | rfl | rfl | rfl | rfl
  . simp [Operation.apply_eq, Operation.result, get, ha]
  . simp [Operation.apply_eq, Operation.result, get, ha']
  . cases a <;> simp [Operation.apply_eq, Operation.result, precedence, get, ha]
  . cases a' <;> simp [Operation.apply_eq, Operation.result, parameters, get, ha']
  . cases a' <;> simp [Operation.apply_eq, Operation.result, State.bind, parameters, get, ha']

theorem intoParameters_ne_noSuchAttribute (h : (s.get? Attribute.parametersName).isSome)
    (name : String) (left : Stack) :
    Edit.intoParameters s.toStack ≠ .error (.noSuchAttribute name) left := by
  obtain ⟨a, ha⟩ := Option.isSome_iff_exists.1 h
  rw [Edit.refines_intoParameters s]
  simp only [Edit.intoParameters, Bind.bind, EStateM.bind, Edit.cell_eq, get, ha, Except.map,
    Edit.ended]
  intro hfailed
  cases a with
  | values vs =>
    simp only [EStateM.bind, Edit.write_cell] at hfailed
    cases hfailed
  | precedence | value | text => cases hfailed

end State

/--
The outermost frame.
-/
def Stack.root? (s : Stack) : Option Frame := s.frames.getLast?

namespace Event

/--
The name that an event writes to.
-/
def target? : Event → Option String
  | .operation op => op.target?
  | .enter _ | .leave => none

/--
Whether one of some events writes to a name.
-/
def Write (events : List Event) (name : String) : Prop :=
  ∃ event ∈ events, event.target? = some name

end Event

namespace Session

theorem bottom_step {may : String → Prop} {event : Event}
    (h : ∀ name, event.target? = some name → may name) (session : Session State) :
    session.state.bottom.Grows may (session.step event).state.bottom := by
  cases event with
  | operation op => exact State.bottom_effect h (op.effect_apply session.state)
  | enter guard =>
    cases henter : guard.enter session.state with
    | error e =>
      simp only [step, Guard.begin_of_error henter]
      exact .refl may _
    | ok inside =>
      obtain ⟨opened, hbegin, _⟩ := Guard.begin_of_ok henter
      simp only [step, hbegin, State.bottom_enter henter]
      exact .refl may _
  | leave =>
    obtain ⟨s, guards⟩ := session
    cases guards with
    | nil => exact .refl may _
    | cons opened rest =>
      simp only [step, State.bottom_close]
      exact .refl may _

/--
Nothing happens to the root but writes.
-/
theorem bottom_run (session : Session State) (events : List Event) :
    session.state.bottom.Grows (Event.Write events) (session.run events).state.bottom := by
  induction events generalizing session with
  | nil => exact .refl _ _
  | cons event events ih =>
    refine .trans (bottom_step ?_ session) ((ih (session.step event)).mono ?_)
    . intro name hname
      exact ⟨event, List.mem_cons_self, hname⟩
    . rintro name ⟨other, hother, hname⟩
      exact ⟨other, List.mem_cons_of_mem _ hother, hname⟩

/--
The stacks that a compilation starts with are those of states.
-/
theorem exists_toStack_eq {start : Stack}
    (h : start = .new ∨ ∃ b, Edit.push b Stack.new = .ok () start) :
    ∃ s : State, s.toStack = start ∧ s.bottom = State.new.bottom := by
  rcases h with rfl | ⟨b, hpush⟩
  . exact ⟨.new, rfl, rfl⟩
  . have hstart : Stack.new = State.new.toStack := rfl
    rw [hstart, Edit.refines_push b, Edit.push_eq] at hpush
    cases hstate : State.new.push b with
    | error e =>
      rw [hstate] at hpush
      cases hpush
    | ok s =>
      rw [hstate] at hpush
      cases hpush
      exact ⟨s, rfl, State.bottom_push hstate⟩

/--
The root of a stack is there at every point of a session, also under open guards, and it is the frame
that it was but for writes. So what is demanded and what is bound is always found. The states of a
session, and those that a script passes through with any compiler, have the frames of such a stack.
-/
theorem root_survives {start : Stack}
    (hstart : start = .new ∨ ∃ b, Edit.push b Stack.new = .ok () start) :
    (∀ events : List Event,
      let session := Session.run ⟨start, []⟩ events
      1 ≤ session.state.frames.length ∧
      (∃ root, session.state.root? = some root ∧
        Attribute.precedenceName ∈ root.names ∧ Attribute.parametersName ∈ root.names ∧
        ∀ later : List Event, ∃ root', (session.run later).state.root? = some root' ∧
          root.Grows (Event.Write later) root' ∧ root.names <+: root'.names ∧
          ∀ name, ¬ Event.Write later name → root'.get? name = root.get? name) ∧
      (∀ v, ∀ op ∈ [Operation.get Attribute.precedenceName, .get Attribute.parametersName,
          .precedence, .parameters, .bind v],
        ∀ name, (op.apply session.state).1 ≠ .error (.noSuchAttribute name)) ∧
      ∀ name left, Edit.intoParameters session.state ≠ .error (.noSuchAttribute name) left) ∧
    ∀ s : State, s.toStack = start →
      (∀ events, Session.run ⟨start, []⟩ events = (Session.run ⟨s, []⟩ events).toStack) ∧
      ∀ (c : Compiler) (depth : Nat) (steps : List Step),
        ∀ t ∈ s :: Step.statesAll (c.compileAt depth) steps s,
          ∃ events opened, Session.run ⟨start, []⟩ events = ⟨t.toStack, opened⟩ := by
  have hrun (s : State) (events : List Event) :
      Session.run ⟨s.toStack, []⟩ events = (Session.run ⟨s, []⟩ events).toStack :=
    toStack_run (bounded_nil s) events
  constructor
  . obtain ⟨s, rfl, hbottom⟩ := exists_toStack_eq hstart
    intro events
    have hbounded := (bounded_nil s).run events
    have hnames := (bottom_run ⟨s, []⟩ events).names
    dsimp only
    rw [hrun s events]
    generalize Session.run ⟨s, []⟩ events = session at hbounded hnames ⊢
    rw [hbottom] at hnames
    have hprecedence : Attribute.precedenceName ∈ session.state.bottom.names :=
      hnames.subset (by decide)
    have hparameters : Attribute.parametersName ∈ session.state.bottom.names :=
      hnames.subset (by decide)
    refine ⟨?_, ⟨session.state.bottom, session.state.getLast?_frames, hprecedence, hparameters, ?_⟩,
      ?_, ?_⟩
    . exact Nat.le_trans session.state.depth_pos (Nat.le_of_eq session.state.length_frames.symm)
    . intro later
      have hgrows := bottom_run session later
      rw [toStack_run hbounded]
      exact ⟨_, (session.run later).state.getLast?_frames, hgrows, hgrows.names,
        fun name hname => hgrows.get? hname⟩
    . intro v op hop name
      have happly := op.apply_toStack session.state
      rw [toStack, happly]
      exact State.apply_ne_noSuchAttribute (State.isSome_get?_of_bottom hprecedence)
        (State.isSome_get?_of_bottom hparameters) hop name
    . exact State.intoParameters_ne_noSuchAttribute (State.isSome_get?_of_bottom hparameters)
  . rintro s rfl
    refine ⟨hrun s, ?_⟩
    intro c depth steps t ht
    have hleads : ∃ opened, s.Leads opened t := by
      cases ht with
      | head => exact ⟨[], .refl s⟩
      | tail _ ht => exact Step.exists_leads (c.leads_compileAt depth) ht
    obtain ⟨opened, events, hevents⟩ := hleads
    refine ⟨events, opened ++ [], ?_⟩
    rw [hrun, hevents]
    rfl

/--
Events that remove frames in all ways. They pop until that fails, close a scope and a view over frames
that were pushed under them, and try to pop the root while a view hides the frame above it. A write
under this view defines a name at the root.
-/
def removals : List Event :=
  [.operation .pop, .operation .pop, .operation (.push .empty),
    .enter (.scope .empty), .operation (.push .empty), .operation (.push .empty),
    .enter .parentView, .operation (.push .empty), .operation (.push .empty), .leave,
    .operation .pop, .leave,
    .enter .parentView, .operation .pop, .operation (.set "flag" (.text "on")),
    .operation (.push .empty), .leave, .operation (.bind (.bool true))]

theorem root_survives_removals :
    ∃ start : Stack,
      Edit.push (Bindings.empty.bind "flag" (.text "off")) Stack.new = .ok () start ∧
      (removals.inits.map fun events => (Session.run ⟨start, []⟩ events).state.frames.length) =
        [2, 1, 1, 2, 3, 4, 5, 4, 5, 6, 5, 4, 2, 1, 1, 1, 2, 2, 2] ∧
      (∀ events ∈ removals.inits, ∀ name,
        (Operation.parameters.apply (Session.run ⟨start, []⟩ events).state).1
          ≠ .error (.noSuchAttribute name)) ∧
      ∃ root root', start.root? = some root ∧ root.names = ["precedence", "parameters"] ∧
        (Session.run ⟨start, []⟩ removals).state.root? = some root' ∧
        root.Grows (Event.Write removals) root' ∧
        root'.names = ["precedence", "parameters", "flag"] := by
  refine ⟨_, rfl, rfl, ?_, ?_⟩
  . intro events _ name
    obtain ⟨hsessions, _⟩ := root_survives (.inr ⟨Bindings.empty.bind "flag" (.text "off"), rfl⟩)
    exact (hsessions events).2.2.1 (.bool true) .parameters (by simp) name
  . obtain ⟨hsessions, _⟩ := root_survives (.inr ⟨Bindings.empty.bind "flag" (.text "off"), rfl⟩)
    obtain ⟨root, hroot, _, _, hlater⟩ := (hsessions []).2.1
    obtain ⟨root', hroot', hgrows, _, _⟩ := hlater removals
    refine ⟨root, root', hroot, ?_, hroot', hgrows, ?_⟩
    . cases hroot
      rfl
    . have hnames := congrArg (Option.map (·.names)) hroot'
      exact (Option.some.inj hnames).symm

end Session

end SqlExpr
