import SqlExpr.Program

/-!
This module contains compilers. A compiler has a table of handlers, keyed by the names of kinds, a
dialect, and possibly a parent that it falls back to. A handler is looked up along the lineage of a
kind in the compiler's own table first and in the tables of its ancestors after that, so a derived
compiler only holds what it changes (`lookup?_eq_some_iff`).
-/

namespace SqlExpr

/--
What one compiler adds to its parent.
-/
structure Layer where
  dialect : Dialect
  handlers : NameMap Handler

namespace Layer

/--
The handler of the first kind of a lineage that the table has one for.
-/
def lookup? (layer : Layer) (lineage : List Kind) : Option Handler :=
  lineage.findSome? fun kind => layer.handlers.get? kind.name

theorem lookup?_eq_some_iff {layer : Layer} {lineage : List Kind} {handler : Handler} :
    layer.lookup? lineage = some handler
      ↔
    ∃ nearer kind farther, lineage = nearer ++ kind :: farther ∧
      layer.handlers.get? kind.name = some handler ∧
      ∀ other ∈ nearer, layer.handlers.get? other.name = none :=
  List.findSome?_eq_some_iff

end Layer

/--
A compiler: its own layer and those of its ancestors, nearest first.
-/
structure Compiler where
  own : Layer
  ancestors : List Layer

namespace Compiler

def empty : Compiler := ⟨⟨.generic, .empty⟩, []⟩

instance : Inhabited Compiler := ⟨empty⟩

def withParent (parent : Compiler) : Compiler :=
  ⟨⟨parent.own.dialect, .empty⟩, parent.own :: parent.ancestors⟩

def parent? (c : Compiler) : Option Compiler :=
  match c.ancestors with
  | [] => none
  | layer :: rest => some ⟨layer, rest⟩

def dialect (c : Compiler) : Dialect := c.own.dialect

/--
The same compiler in another dialect. Its ancestors keep theirs.
-/
def withDialect (c : Compiler) (d : Dialect) : Compiler :=
  { c with own := { c.own with dialect := d } }

/--
Register a handler for some kinds. It takes the place of handlers registered for them before.
-/
def register (c : Compiler) (kinds : List Kind) (handler : Handler) : Compiler :=
  { c with own := { c.own with
      handlers := c.own.handlers.insertAll (kinds.map fun kind => (kind.name, handler)) } }

def layers (c : Compiler) : List Layer := c.own :: c.ancestors

/--
The handler that serves a kind.
-/
def lookup? (c : Compiler) (kind : Kind) : Option Handler :=
  c.layers.findSome? (·.lookup? kind.lineage)

def handles (c : Compiler) (kind : Kind) : Bool :=
  (c.lookup? kind).isSome

theorem lookup?_eq_some_iff {c : Compiler} {kind : Kind} {handler : Handler} :
    c.lookup? kind = some handler
      ↔
    ∃ nearer layer farther, c.layers = nearer ++ layer :: farther ∧
      layer.lookup? kind.lineage = some handler ∧
      ∀ other ∈ nearer, other.lookup? kind.lineage = none :=
  List.findSome?_eq_some_iff

end Compiler

end SqlExpr
