import SqlExpr.State.Edit

/-!
This module contains the operations on a state as data, with the answers that they give. Each of
them is an edit in place, whose failure ends with the state that it has come to.
-/

namespace SqlExpr

inductive Operation where
  | get (name : String)
  -- Look a name up and keep an attribute of one shape only.
  | getAs (name : String) (shape : Attribute.Shape)
  -- Overwrite the innermost binding, or bind the name in the innermost frame.
  | set (name : String) (a : Attribute)
  -- Overwrite the innermost binding, which must exist.
  | replace (name : String) (a : Attribute)
  -- Add a value to a list in place.
  | append (name : String) (v : Value)
  | getAll (name : String)
  -- Look a name up in every frame, with a default for those that do not bind it.
  | getAllOr (name : String) (default? : Option Attribute)
  | compact
  | push (b : Bindings)
  | pop
  | depth
  | precedence
  | parameters
  | bind (v : Value)

inductive Answer where
  | done
  -- The attribute that was looked up, or was overwritten.
  | attribute (a : Attribute)
  -- The attribute that was looked up, if it has the shape asked for.
  | shaped (a? : Option Attribute)
  | attributes (as : List Attribute)
  | perFrame (as : List (Option Attribute))
  | bindings (frame : Frame)
  -- A number of frames, or the new length of a list.
  | count (n : Nat)
  -- There is no list to add to.
  | notAList
  | precedence (p : Precedence)
  | values (vs : List Value)

namespace Operation

variable {σ : Type} [FrameStack σ]

def run : Operation → Edit σ Answer
  | .get name => do
    return .attribute (← Edit.find name)
  | .getAs name shape => do
    let a ← Edit.find name
    return .shaped (if a.shape = shape then some a else none)
  | .set name a => do
    Edit.assign name a
    return .done
  | .replace name a => do
    let (i, old) ← Edit.cell name
    Edit.write i name a
    return .attribute old
  | .append name v => do
    let (i, old) ← Edit.cell name
    match old with
    | .values vs =>
      Edit.write i name (.values (vs ++ [v]))
      return .count (vs.length + 1)
    | _ => return .notAList
  | .getAll name => do
    return .attributes ((← Edit.frames).filterMap (·.get? name))
  | .getAllOr name default? => do
    return .perFrame ((← Edit.frames).map fun frame => (frame.get? name).or default?)
  | .compact => do
    return .bindings (merge (← Edit.frames))
  | .push b => do
    Edit.push b
    return .done
  | .pop => do
    Edit.pop
    return .done
  | .depth => do
    return .count (← Edit.depth)
  | .precedence => do
    return .precedence (← Edit.precedence)
  | .parameters => do
    return .values (← Edit.parameters)
  | .bind v => do
    Edit.bindValue v
    return .done

/--
Carry out an operation in a state that goes on to be used, also after a failure.
-/
def apply (op : Operation) (s : σ) : Except Error Answer × σ :=
  match op.run s with
  | .ok answer s' => (.ok answer, s')
  | .error e s' => (.error e, s')

end Operation

end SqlExpr
