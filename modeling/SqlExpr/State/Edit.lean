import SqlExpr.State

/-!
This module contains how a stack of frames is changed in place. An `Edit` that fails ends with the
stack as it is at that point, so that what it did before is not undone.

Edits are written once for all representations of a stack (`FrameStack`). A `State` is one, whose
shape has a root. A `Stack` is another one: a list of frames, which would be empty after one removal
too many.
-/

namespace SqlExpr

/--
A representation of a stack of frames.
-/
class FrameStack (σ : Type) where
  -- The frames, the innermost one first.
  frames : σ → List Frame
  push : Frame → σ → σ
  -- Remove the innermost frame.
  pop : σ → σ
  -- Change the frame at a position, counted from the innermost one.
  modify : Nat → (Frame → Frame) → σ → σ
  -- Keep that many of the outermost frames.
  truncate : Nat → σ → σ

/--
A stack that may be empty. The innermost frame comes first.
-/
structure Stack where
  frames : List Frame

namespace Stack

def new : Stack :=
  ⟨[.ofList [(Attribute.precedenceName, .precedence .loosest),
    (Attribute.parametersName, .values [])]]⟩

instance : FrameStack Stack where
  frames s := s.frames
  push frame s := ⟨frame :: s.frames⟩
  pop s := ⟨s.frames.tail⟩
  modify i f s := ⟨s.frames.modify i f⟩
  truncate depth s := ⟨s.frames.drop (s.frames.length - depth)⟩

end Stack

namespace State

def outer : State → State
  | .root frame => .root frame
  | .inner _ outer => outer

def modify : Nat → (Frame → Frame) → State → State
  | 0, f, .root frame => .root (f frame)
  | _ + 1, _, .root frame => .root frame
  | 0, f, .inner frame outer => .inner (f frame) outer
  | i + 1, f, .inner frame outer => .inner frame (outer.modify i f)

/--
Drop inner frames until at most `depth` frames are left. The root stays.
-/
def cutTo (depth : Nat) : State → State
  | .root frame => .root frame
  | .inner frame outer => if outer.depth < depth then .inner frame outer else outer.cutTo depth

instance : FrameStack State where
  frames := frames
  push := .inner
  pop := outer
  modify := modify
  truncate := cutTo

theorem depth_cutTo (s : State) {depth : Nat} (h : 0 < depth) :
    (s.cutTo depth).depth = min s.depth depth := by
  induction s with
  | root frame => simp [cutTo, State.depth]; omega
  | inner frame outer ih =>
    simp only [cutTo]
    split
    . simp only [State.depth]; omega
    . rw [ih]; simp only [State.depth]; omega

theorem cutTo_of_depth_le {s : State} {depth : Nat} (h : s.depth ≤ depth) : s.cutTo depth = s := by
  cases s with
  | root frame => rfl
  | inner frame outer =>
    have : outer.depth < depth := by simp only [State.depth] at h; omega
    simp [cutTo, this]

/--
Cutting is truncation, as long as a frame is to be left.
-/
theorem frames_cutTo (s : State) {depth : Nat} (h : 0 < depth) :
    (s.cutTo depth).frames = s.frames.drop (s.depth - depth) := by
  induction s with
  | root frame =>
    have : 1 - depth = 0 := by omega
    simp [cutTo, State.depth, this]
  | inner frame outer ih =>
    simp only [cutTo, State.depth]
    split
    . have : outer.depth + 1 - depth = 0 := by omega
      simp [this]
    . have : outer.depth + 1 - depth = (outer.depth - depth) + 1 := by omega
      simp [this, ih]

theorem frames_modify (i : Nat) (f : Frame → Frame) (s : State) :
    (s.modify i f).frames = s.frames.modify i f := by
  induction s generalizing i with
  | root frame => cases i <;> simp [modify]
  | inner frame outer ih => cases i <;> simp [modify, ih]

end State

/--
A program that changes a stack of frames in place. One that fails leaves what it has changed so far.
-/
abbrev Edit (σ α : Type) := EStateM Error σ α

/--
The innermost binding of a name: the position of its frame, and what the name is bound to.
-/
def locate (name : String) : List Frame → Option (Nat × Attribute)
  | [] => none
  | frame :: outer =>
    match frame.get? name with
    | some a => some (0, a)
    | none => (locate name outer).map fun cell => (cell.1 + 1, cell.2)

/--
All bindings of some frames in one. Inner bindings win over outer ones.
-/
def merge : List Frame → Frame
  | [] => .empty
  | frame :: outer => (merge outer).insertAll frame.entries

namespace Edit

variable {σ : Type} [FrameStack σ]

def frames : Edit σ (List Frame) := do
  return FrameStack.frames (← get)

def depth : Edit σ Nat := do
  return (← frames).length

/--
The innermost binding of a name, to be written to.
-/
def cell (name : String) : Edit σ (Nat × Attribute) := do
  match locate name (← frames) with
  | some cell => return cell
  | none => throw (.noSuchAttribute name)

def find (name : String) : Edit σ Attribute := do
  return (← cell name).2

def write (i : Nat) (name : String) (a : Attribute) : Edit σ Unit :=
  modify (FrameStack.modify i (·.insert name a))

/--
Overwrite the innermost binding of a name, or bind it in the innermost frame if it has none.
-/
def assign (name : String) (a : Attribute) : Edit σ Unit := do
  match locate name (← frames) with
  | some cell => write cell.1 name a
  | none => write 0 name a

/--
Bind a name in a frame that is not on the stack to what it is bound to on the stack.
-/
def copyTo (frame : Frame) (name : String) : Edit σ Frame := do
  return frame.insert name (← find name)

/--
Build a frame of copies and bindings, and push it when it is complete.
-/
def push (b : Bindings) : Edit σ Unit := do
  let copied ← b.copies.foldlM copyTo NameMap.empty
  modify (FrameStack.push (copied.insertAll b.values))

def pop : Edit σ Unit := do
  if (← depth) ≤ 1 then throw .rootScope
  modify FrameStack.pop

def precedence : Edit σ Precedence := do
  match ← find Attribute.precedenceName with
  | .precedence p => return p
  | _ => throw (.attributeType Attribute.precedenceName Attribute.Shape.precedence.describe)

def parameters : Edit σ (List Value) := do
  match ← find Attribute.parametersName with
  | .values vs => return vs
  | _ => throw (.attributeType Attribute.parametersName Attribute.Shape.values.describe)

/--
Add a value to the innermost list of parameters, in its place.
-/
def bindValue (v : Value) : Edit σ Unit := do
  let (i, a) ← cell Attribute.parametersName
  match a with
  | .values vs => write i Attribute.parametersName (.values (vs ++ [v]))
  | _ => throw (.attributeType Attribute.parametersName Attribute.Shape.values.describe)

/--
Take the parameters out of a stack that is given up.
-/
def intoParameters : Edit σ (List Value) := do
  let (i, a) ← cell Attribute.parametersName
  match a with
  | .values vs =>
    write i Attribute.parametersName (.values [])
    return vs
  | _ => throw (.attributeType Attribute.parametersName Attribute.Shape.values.describe)

end Edit

end SqlExpr
