import SqlExpr.Compiler.Total
import SqlExpr.Node.Form

/-!
This module contains the services that the standard compiler offers: one for every built-in handler.
A kind is served by the first of them along its lineage, in every dialect (`lookup?_standard`).
-/

namespace SqlExpr

/--
The built-in handlers, as data.
-/
inductive Service where
  | value
  | null
  | unary
  | binary
  | equality
  | chain
  | call
  | table
  | column
  | select
  | setOperation
  deriving DecidableEq

namespace Service

def handler : Service → Handler
  | .value => Handler.value
  | .null => Handler.null
  | .unary => Handler.unary
  | .binary => Handler.binary
  | .equality => Handler.equality
  | .chain => Handler.chain
  | .call => Handler.call
  | .table => Handler.table
  | .column => Handler.column
  | .select => Handler.select
  | .setOperation => Handler.setOperation

/--
The form of the nodes that a service is for. Null is written for nodes of any form.
-/
def form? : Service → Option Form
  | .value => some .valued
  | .null => none
  | .unary => some .unary
  | .binary | .equality => some .binary
  | .chain => some .chain
  | .call => some .call
  | .table => some .table
  | .column => some .column
  | .select => some .select
  | .setOperation => some .setOperation

def registered : List (String × Service) :=
  [("value", .value), ("null", .null), ("unary_operator", .unary), ("binary_operator", .binary),
    ("equal", .equality), ("not_equal", .equality), ("boolean_chain", .chain),
    ("function", .call), ("table", .table), ("column", .column), ("select", .select),
    ("set_operation", .setOperation)]

end Service

/--
The service for a kind: the one that is registered for its nearest ancestor, itself included.
-/
def Kind.service? (kind : Kind) : Option Service :=
  kind.lineage.findSome? fun ancestor => Entries.lookup ancestor.name Service.registered

namespace Kind

theorem exists_of_service? {kind : Kind} {service : Service} (h : kind.service? = some service) :
    ∃ ancestor ∈ kind.lineage, (ancestor.name, service) ∈ Service.registered := by
  obtain ⟨ancestor, hmem, hlookup⟩ := List.exists_of_findSome?_eq_some h
  exact ⟨ancestor, hmem, Entries.mem_of_lookup hlookup⟩

theorem isA_null_of_service? {kind : Kind} (h : kind.service? = some .null) :
    kind.isA Standard.null = true := by
  obtain ⟨ancestor, hmem, hregistered⟩ := exists_of_service? h
  have hname : ancestor.name = "null" := by simpa [Service.registered] using hregistered
  exact isA_iff.2 ⟨ancestor, hmem, hname⟩

theorem isA_equal_of_service? {kind : Kind} (h : kind.service? = some .equality) :
    kind.isA Standard.equal = true ∨ kind.isA Standard.notEqual = true := by
  obtain ⟨ancestor, hmem, hregistered⟩ := exists_of_service? h
  have hname : ancestor.name = "equal" ∨ ancestor.name = "not_equal" := by
    simpa [Service.registered] using hregistered
  cases hname with
  | inl hname => exact .inl (isA_iff.2 ⟨ancestor, hmem, hname⟩)
  | inr hname => exact .inr (isA_iff.2 ⟨ancestor, hmem, hname⟩)

end Kind

/-! The services for literals. -/

namespace Literal

/--
The walks through the layers of a literal stay in step: its kind is the kind of its value.
-/
theorem kind_eq (x : Literal) : x.kind = x.toValue.kind := by
  induction x with
  | scalar x => cases x <;> rfl
  | present x ih => exact ih
  | absent => rfl

theorem kind_of_isNull {x : Literal} (h : x.toValue.isNull = true) :
    x.kind = Kind.Standard.null := by
  rw [x.kind_eq]
  cases hvalue : x.toValue with
  | null => rfl
  | _ =>
    rw [hvalue] at h
    cases h

theorem kind_of_not_isNull {x : Literal} (h : x.toValue.isNull = false) :
    x.kind.service? = some .value ∧ x.kind.precedence = .tightest ∧
      x.kind.isA Kind.Standard.null = false := by
  rw [x.kind_eq]
  cases hvalue : x.toValue with
  | null =>
    rw [hvalue] at h
    cases h
  | _ => exact ⟨rfl, rfl, rfl⟩

end Literal

theorem Entries.lookup_map {α β : Type} (f : α → β) (name : String) (entries : List (String × α)) :
    lookup name (entries.map fun entry => (entry.1, f entry.2))
      =
    (lookup name entries).map f := by
  induction entries with
  | nil => rfl
  | cons entry rest ih =>
    simp only [List.map_cons, lookup]
    split
    . rfl
    . apply ih

theorem Compiler.lookup?_standard (d : Dialect) (kind : Kind) :
    (standard.withDialect d).lookup? kind = kind.service?.map Service.handler := by
  have hentries : standard.own.handlers.entries
      = Service.registered.map fun entry => (entry.1, entry.2.handler) := rfl
  have hlayers : (standard.withDialect d).layers = [⟨d, standard.own.handlers⟩] := rfl
  unfold lookup? Kind.service?
  rw [hlayers, List.map_findSome?]
  simp only [List.findSome?_cons, List.findSome?_nil, Layer.lookup?, NameMap.get?,
    hentries, Entries.lookup_map]
  split
  . next h => rw [← h]; rfl
  . next h => rw [← h]; rfl

end SqlExpr
