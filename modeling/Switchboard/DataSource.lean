import Switchboard.Operation
import Switchboard.Text.Blank

/-!
# Data sources

A data source has an id, fields, and bindings of operations to clauses of a query. A field may refer
to a field of another data source, and may import one through such a reference. Nothing here is
checked against other data sources.

* `Field.reference?_eq_some_iff`: a field refers to what its foreign key holds, trimmed, unless that
  is blank.
* `DataSource.field?_eq_some`, `DataSource.isSome_field?_iff`: a field is found under its own name.
-/

namespace Switchboard

open Json (Layout Shape Slot)

/-- How the values of an imported field are summed up. -/
inductive Summary where
  | sum
  | avg
  | max
  | min
  | count
  | concat
  | first
deriving DecidableEq, Repr

namespace Summary

/-- The name on the wire. -/
def name : Summary → String
  | sum => "sum"
  | avg => "avg"
  | max => "max"
  | min => "min"
  | count => "count"
  | concat => "concat"
  | first => "first"

/-- The name in a report. -/
def title : Summary → String
  | sum => "Sum"
  | avg => "Avg"
  | max => "Max"
  | min => "Min"
  | count => "Count"
  | concat => "Concat"
  | first => "First"

/-- The summary of a name. -/
def ofName? (s : String) : Option Summary :=
  [sum, avg, max, min, count, concat, first].find? (·.name = s)

/-- A summary is given by its name. -/
def shape : Shape Summary := .choice ofName? name

end Summary

/-- A field that shows a field of a related data source, reached through a foreign key. -/
structure Import where
  via : String
  displayField : String
  summary : Option Summary
deriving DecidableEq, Repr

namespace Import

/-- The form on the wire. -/
def layout : Layout Import where
  blank := ⟨"", "", none⟩
  slots := [
    .required "via" [] .text via fun i x => { i with via := x },
    .required "display_field" [] .text displayField fun i x => { i with displayField := x },
    .optional "summary" [] Summary.shape summary fun i x => { i with summary := x }]
  isClosed := false

end Import

/-- A field of a data source. -/
structure Field where
  name : String
  /-- The data source referred to, and after a point its field if that has another name. -/
  foreignKey : Option String
  imported : Option Import
deriving DecidableEq, Repr

namespace Field

/-- A field without relations. -/
def new (name : String) : Field := ⟨name, none, none⟩

/-- What the field refers to, if that is not blank. -/
def reference? (f : Field) : Option String :=
  (Text.nonBlank? f.foreignKey).map Text.trim

/-- The form on the wire. -/
def layout : Layout Field where
  blank := new ""
  slots := [
    .required "name" [] .text name fun f x => { f with name := x },
    .optional "foreign_key" [] .text foreignKey fun f x => { f with foreignKey := x },
    .optional "import" [] Import.layout.shape imported fun f x => { f with imported := x }]
  isClosed := false

theorem reference?_eq_some_iff {f : Field} {r : String} :
    f.reference? = some r ↔ ∃ s, f.foreignKey = some s ∧ Text.trim s ≠ "" ∧ Text.trim s = r := by
  cases hf : f.foreignKey with
  | none => simp [reference?, Text.nonBlank?, hf]
  | some s =>
    have := Text.isBlank_iff_trim_eq_empty (s := s)
    cases hb : Text.isBlank (some s)
    · simp_all only [reference?, Text.nonBlank?, Option.map_eq_some_iff, Option.filter_eq_some_iff,
        Option.some.injEq, exists_eq_left', ne_eq, Bool.not_eq_true', Bool.false_eq_true, false_iff,
        not_false_eq_true, true_and]
      constructor
      · rintro ⟨t, ⟨rfl, -⟩, h⟩
        exact h
      · intro h
        exact ⟨s, ⟨rfl, hb⟩, h⟩
    · simp_all [reference?, Text.nonBlank?]

end Field

/-- The clauses that a data source binds to an operation. -/
structure OperationBinding where
  operation : Option Operation
  operationId : Option String
  selectClause : Option String
  tableClause : Option String
  whereClause : Option String
  orderClause : Option String
  joinClause : Option String
  /-- A whole statement. -/
  statement : Option String
deriving DecidableEq, Repr

namespace OperationBinding

/-- A binding to no operation, with no clauses. -/
def blank : OperationBinding := ⟨none, none, none, none, none, none, none, none⟩

/-- A binding to an operation, with no clauses. -/
def ofOperation (operation : Operation) : OperationBinding := { blank with operation }

/-- The form on the wire. -/
def layout : Layout OperationBinding where
  blank := blank
  slots := [
    .nullable "operation_type" [] Operation.shape operation fun b x => { b with operation := x },
    .optional "operation_id" [] .text operationId fun b x => { b with operationId := x },
    .optional "select_clause" [] .text selectClause fun b x => { b with selectClause := x },
    .optional "table_clause" ["from_clause"] .text tableClause
      fun b x => { b with tableClause := x },
    .optional "where_clause" [] .text whereClause fun b x => { b with whereClause := x },
    .optional "order_clause" [] .text orderClause fun b x => { b with orderClause := x },
    .optional "join_clause" ["ansi_join_clause"] .text joinClause
      fun b x => { b with joinClause := x },
    .optional "custom_sql" [] .text statement fun b x => { b with statement := x }]
  isClosed := false

end OperationBinding

/-- A data source: an id, fields and bindings. -/
structure DataSource where
  id : String
  fields : List Field
  bindings : List OperationBinding
deriving DecidableEq, Repr

namespace DataSource

/-- A data source with nothing but its id. -/
def new (id : String) : DataSource := ⟨id, [], []⟩

/-- The first field of a name. -/
def field? (d : DataSource) (name : String) : Option Field :=
  d.fields.find? (·.name = name)

/-- The slots that a data source has wherever it is written. -/
def slots : List (Slot DataSource) := [
  .required "id" [] .text id fun d x => { d with id := x },
  .defaulted "field" [] (.list Field.layout.shape) fields fun d x => { d with fields := x },
  .defaulted "operation_binding" [] (.list OperationBinding.layout.shape) bindings
    fun d x => { d with bindings := x }]

/-- The form on the wire. -/
def layout : Layout DataSource := ⟨new "", slots, false⟩

/-- Data sources are objects with the slots of the layout. -/
def shape : Shape DataSource := layout.shape

theorem field?_eq_some {d : DataSource} {name : String} {f : Field}
    (h : d.field? name = some f) : f ∈ d.fields ∧ f.name = name :=
  ⟨List.mem_of_find?_eq_some h, by simpa using List.find?_some h⟩

theorem isSome_field?_iff {d : DataSource} {name : String} :
    (d.field? name).isSome = true ↔ name ∈ d.fields.map (·.name) := by
  simp [field?, List.find?_isSome]

end DataSource

end Switchboard
