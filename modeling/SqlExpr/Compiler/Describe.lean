import SqlExpr.Compiler
import SqlExpr.Text.Quoted

/-!
This module contains descriptions of kinds and compilers for people who look for a handler.
-/

namespace SqlExpr

def Kind.describe (kind : Kind) : String :=
  "Kind(" ++ Quoted.encode kind.name ++ ")"

namespace Layer

/--
The dialect of a layer and the names of the kinds that it has handlers for, in ascending order.
-/
def describe (layer : Layer) : String :=
  let names := layer.handlers.sorted.map fun entry => Quoted.encode entry.1
  "dialect: " ++ Quoted.encode layer.dialect.name ++
    ", handlers: [" ++ ", ".intercalate names ++ "]"

end Layer

namespace Compiler

def describeLayers (own : Layer) : List Layer → String
  | [] => "Compiler \x7b " ++ own.describe ++ ", parent: None \x7d"
  | parent :: rest =>
    "Compiler \x7b " ++ own.describe ++ ", parent: Some(" ++ describeLayers parent rest ++ ") \x7d"

/--
The dialects and handled kinds of a compiler and of its ancestors.
-/
def describe (c : Compiler) : String :=
  describeLayers c.own c.ancestors

end Compiler

end SqlExpr
