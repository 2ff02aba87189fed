import SqlExpr.Compiler.Run

/-!
This module contains scripts: sequences of steps that run in a state one after another. A step is an
operation, the compilation of an expression, or a block of steps under a guard. A step that fails is
reported, and the script goes on.
-/

namespace SqlExpr

inductive Step where
  | operation (op : Operation)
  -- Compile an expression, if it can be built.
  | compile (node : Except Error Node) (demand : Demand)
  | block (guard : Guard) (steps : List Step)

inductive Report where
  | failed (e : Error)
  | answered (answer : Answer)
  | compiled (text : String)
  -- The number of frames at the start of a block, and for each of its steps the report and the
  -- number of frames after it.
  | block (depth : Nat) (reports : List (Report × Nat))

namespace Step

mutual

def run (compile : CompileFn) : Step → State → Option (Report × State)
  | .operation op, s =>
    match op.apply s with
    | (.ok answer, s') => some (.answered answer, s')
    | (.error e, s') => some (.failed e, s')
  | .compile (.error e) _, s => some (.failed e, s)
  | .compile (.ok node) demand, s =>
    match compile.withDemand node demand s with
    | none => none
    | some (.ok text, s') => some (.compiled text, s')
    | some (.error e, s') => some (.failed e, s')
  | .block guard steps, s =>
    let result := guard.run s fun inside =>
      match runAll compile steps inside with
      | none => none
      | some (reports, s') => some (.ok (Report.block inside.depth reports), s')
    match result with
    | none => none
    | some (.ok report, s') => some (report, s')
    | some (.error e, s') => some (.failed e, s')

/--
Run steps one after another. Each report comes with the number of frames after its step.
-/
def runAll (compile : CompileFn) : List Step → State → Option (List (Report × Nat) × State)
  | [], s => some ([], s)
  | step :: steps, s =>
    match run compile step s with
    | none => none
    | some (report, s') =>
      match runAll compile steps s' with
      | none => none
      | some (reports, s'') => some ((report, s'.depth) :: reports, s'')

end

end Step

end SqlExpr
