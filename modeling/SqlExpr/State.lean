import SqlExpr.Attribute
import SqlExpr.Error

/-!
This module contains the state that a compilation runs in: a stack of frames, each of which binds
names to attributes. Look-ups go from the innermost frame outwards, so that inner frames shadow
outer ones, and what no inner frame binds is shared with the outer ones. Two names have a meaning of
their own: `precedence`, what the caller demands of the expression that is compiled next, and
`parameters`, the values bound so far in the order of their placeholders.

`get?_set` says what a write does to all later look-ups.

The operations are written here as functions from states to results. What runs are edits in place,
which leave a state behind also where they fail (`Edit`). Both do the same (`Operation.run_eq`).
-/

namespace SqlExpr

/--
A stack of frames. By its shape it has a root, which nothing removes.
-/
inductive State where
  | root (frame : Frame)
  | inner (frame : Frame) (outer : State)

namespace State

def ofRoot (bindings : List (String × Attribute)) : State :=
  .root (NameMap.ofList bindings)

def new : State :=
  ofRoot [(Attribute.precedenceName, .precedence .loosest), (Attribute.parametersName, .values [])]

instance : Inhabited State := ⟨new⟩

def frames : State → List Frame
  | .root frame => [frame]
  | .inner frame outer => frame :: outer.frames

def depth : State → Nat
  | .root _ => 1
  | .inner _ outer => outer.depth + 1

def bottom : State → Frame
  | .root frame => frame
  | .inner _ outer => outer.bottom

/-! Reading. -/

def get? : State → String → Option Attribute
  | .root frame, name => frame.get? name
  | .inner frame outer, name => (frame.get? name).or (outer.get? name)

def get (s : State) (name : String) : Except Error Attribute :=
  match s.get? name with
  | some a => .ok a
  | none => .error (.noSuchAttribute name)

def getAll (s : State) (name : String) : List Attribute :=
  s.frames.filterMap (·.get? name)

/--
The binding of a name in every frame, innermost first, with a default for frames that do not bind
it.
-/
def getAllOr (s : State) (name : String) (default? : Option Attribute) : List (Option Attribute) :=
  s.frames.map fun frame => (frame.get? name).or default?

/--
All visible bindings in one frame. Inner bindings win over outer ones.
-/
def compact : State → Frame
  | .root frame => frame
  | .inner frame outer => outer.compact.insertAll frame.entries

/-! Writing. -/

def overwrite? : State → String → Attribute → Option State
  | .root frame, name, a =>
    if (frame.get? name).isSome then some (.root (frame.insert name a)) else none
  | .inner frame outer, name, a =>
    if (frame.get? name).isSome then some (.inner (frame.insert name a) outer)
    else (outer.overwrite? name a).map (.inner frame)

def define : State → String → Attribute → State
  | .root frame, name, a => .root (frame.insert name a)
  | .inner frame outer, name, a => .inner (frame.insert name a) outer

/--
Overwrite the innermost binding of a name, or bind it in the innermost frame if it has none.
-/
def set (s : State) (name : String) (a : Attribute) : State :=
  (s.overwrite? name a).getD (s.define name a)

/-! Frames. -/

def copyInto (s : State) (frame : Frame) : List String → Except Error Frame
  | [] => .ok frame
  | name :: names =>
    match s.get name with
    | .ok a => s.copyInto (frame.insert name a) names
    | .error e => .error e

/--
Push a frame. The copies are read from the stack as it is before, and one that cannot be made leaves
everything as it was.
-/
def push (s : State) (b : Bindings) : Except Error State :=
  match s.copyInto .empty b.copies with
  | .ok frame => .ok (.inner (frame.insertAll b.values) s)
  | .error e => .error e

def pop : State → Except Error State
  | .root _ => .error .rootScope
  | .inner _ outer => .ok outer

/--
The starting state with one more frame.
-/
def withBindings (b : Bindings) : Except Error State :=
  new.push b

/-! The two names that the compiler relies on. -/

def precedence (s : State) : Except Error Precedence :=
  match s.get Attribute.precedenceName with
  | .ok (.precedence p) => .ok p
  | .ok _ => .error (.attributeType Attribute.precedenceName Attribute.Shape.precedence.describe)
  | .error e => .error e

def parameters (s : State) : Except Error (List Value) :=
  match s.get Attribute.parametersName with
  | .ok (.values vs) => .ok vs
  | .ok _ => .error (.attributeType Attribute.parametersName Attribute.Shape.values.describe)
  | .error e => .error e

/--
Bind one more value, at the end.
-/
def bind (s : State) (v : Value) : Except Error State :=
  match s.parameters with
  | .ok vs => .ok (s.set Attribute.parametersName (.values (vs ++ [v])))
  | .error e => .error e

/-! What the operations do to the frames and to `get?`. -/

@[simp]
theorem frames_root (frame : Frame) : (root frame).frames = [frame] := rfl

@[simp]
theorem frames_inner (frame : Frame) (outer : State) :
    (inner frame outer).frames = frame :: outer.frames := rfl

theorem length_frames (s : State) : s.frames.length = s.depth := by
  induction s with
  | root frame => rfl
  | inner frame outer ih => simp [depth, ih]

theorem depth_pos (s : State) : 0 < s.depth := by
  cases s <;> simp [depth]

theorem overwrite?_isSome (s : State) (name : String) (a : Attribute) :
    (s.overwrite? name a).isSome = (s.get? name).isSome := by
  induction s with
  | root frame => by_cases h : (frame.get? name).isSome <;> simp [overwrite?, get?, h]
  | inner frame outer ih => cases h : frame.get? name <;> simp [overwrite?, get?, h, ih]

theorem get?_overwrite? {s s' : State} {name : String} {a : Attribute}
    (h : s.overwrite? name a = some s') (other : String) :
    s'.get? other = if other = name then some a else s.get? other := by
  induction s generalizing s' with
  | root frame =>
    simp only [overwrite?] at h
    split at h
    . cases h
      simp [get?, NameMap.get?_insert]
    . cases h
  | inner frame outer ih =>
    simp only [overwrite?] at h
    split at h
    . cases h
      by_cases hother : other = name <;> simp [get?, NameMap.get?_insert, hother]
    . next hnone =>
      obtain ⟨outer', houter, rfl⟩ := Option.map_eq_some_iff.1 h
      simp only [get?, ih houter]
      by_cases hother : other = name
      . have : frame.get? name = none := by simpa using hnone
        simp [hother, this]
      . simp [hother]

theorem get?_define (s : State) (name other : String) (a : Attribute) :
    (s.define name a).get? other = if other = name then some a else s.get? other := by
  cases s <;> by_cases h : other = name <;> simp [define, get?, NameMap.get?_insert, h]

theorem get?_set (s : State) (name other : String) (a : Attribute) :
    (s.set name a).get? other = if other = name then some a else s.get? other := by
  unfold set
  cases h : s.overwrite? name a with
  | some s' => exact get?_overwrite? h other
  | none => exact get?_define s name other a

theorem depth_overwrite? {s s' : State} {name : String} {a : Attribute}
    (h : s.overwrite? name a = some s') : s'.depth = s.depth := by
  induction s generalizing s' with
  | root frame =>
    simp only [overwrite?] at h
    split at h <;> cases h
    rfl
  | inner frame outer ih =>
    simp only [overwrite?] at h
    split at h
    . cases h
      rfl
    . obtain ⟨outer', houter, rfl⟩ := Option.map_eq_some_iff.1 h
      simp [depth, ih houter]

@[simp]
theorem depth_set (s : State) (name : String) (a : Attribute) : (s.set name a).depth = s.depth := by
  unfold set
  cases h : s.overwrite? name a with
  | some s' => exact depth_overwrite? h
  | none => cases s <;> rfl

end State

end SqlExpr
