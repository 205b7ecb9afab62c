import Switchboard.DataSource
import Switchboard.Names
import Switchboard.Text.Split

/-!
# Relations between data sources

A foreign key ties a field of a data source to a field of another. An import ties a field to one
that it shows of a related data source, through a foreign key of its own data source.

A reference names a data source, and after the first point a field; without a point the field has
the name of the referring one. White space around either name does not count.

* `Reference.parse_of_not_mem`: a reference without a point names the field that refers.
* `Reference.parse_append`: a reference with a point names what stands around the first one.
-/

namespace Switchboard

/-- A field that refers to a field of a data source. -/
structure ForeignKey where
  dataSource : String
  field : String
  targetDataSource : String
  targetField : String
deriving DecidableEq, Repr

/-- A field that shows a field of a related data source. -/
structure ImportFrom where
  dataSource : String
  field : String
  viaField : String
  relatedDataSource : String
  displayField : String
  summary : Option Summary
deriving DecidableEq, Repr

/-- Relations by the field they belong to. -/
abbrev ByField (ρ : Type) : Type := Std.ExtTreeMap String ρ

/-- The relations of a data source. -/
structure Relations where
  foreignKeys : ByField ForeignKey
  imports : ByField ImportFrom

namespace ForeignKey

/-- The relation as an object. -/
def toJson (k : ForeignKey) : Json :=
  .object [("data_source", .string k.dataSource), ("field", .string k.field),
    ("target_data_source", .string k.targetDataSource), ("target_field", .string k.targetField)]

end ForeignKey

namespace ImportFrom

/-- The relation as an object. -/
def toJson (i : ImportFrom) : Json :=
  .object [("data_source", .string i.dataSource), ("field", .string i.field),
    ("via_field", .string i.viaField), ("related_data_source", .string i.relatedDataSource),
    ("display_field", .string i.displayField),
    ("summary", (i.summary.map fun s => Json.string s.name).getD .null)]

end ImportFrom

/-- Why the relations of a data source cannot be derived. -/
inductive DerivationError where
  | malformedReference (dataSource field reference : String)
  | unresolvedTarget (dataSource field target : String)
  | missingTargetField (dataSource field target targetField : String)
  | missingForeignKey (dataSource field via : String)
deriving DecidableEq, Repr

namespace DerivationError

/-- What is reported. -/
def message : DerivationError → String
  | malformedReference dataSource field reference =>
    s!"{dataSource}.{field}: malformed foreign key reference '{reference}'"
  | unresolvedTarget dataSource field target =>
    s!"{dataSource}.{field}: referenced data source '{target}' is not registered"
  | missingTargetField dataSource field target targetField =>
    s!"{dataSource}.{field}: data source '{target}' has no field '{targetField}'"
  | missingForeignKey dataSource field via =>
    s!"{dataSource}.{field}: import via '{via}' which is not a foreign key"

end DerivationError

/-- What a reference names. -/
structure Reference where
  dataSource : String
  field : String
deriving DecidableEq, Repr

namespace Reference

/-- What the reference of a field names. -/
def parse (reference ownField : String) : Reference :=
  match Text.cut? '.' reference.toList with
  | some (source, field) => ⟨.ofList (Text.trimChars source), .ofList (Text.trimChars field)⟩
  | none => ⟨Text.trim reference, ownField⟩

/-- Whether a reference names both a data source and a field. -/
def isComplete (r : Reference) : Bool := r.dataSource ≠ "" && r.field ≠ ""

theorem parse_of_not_mem {reference ownField : String} (h : '.' ∉ reference.toList) :
    parse reference ownField = ⟨Text.trim reference, ownField⟩ := by
  rw [parse, Text.cut?_eq_none_iff.2 h]

theorem parse_append {source field : List Char} (ownField : String) (h : '.' ∉ source) :
    parse (.ofList (source ++ '.' :: field)) ownField =
      ⟨.ofList (Text.trimChars source), .ofList (Text.trimChars field)⟩ := by
  rw [parse, String.toList_ofList, Text.cut?_eq_some_iff.2 ⟨rfl, h⟩]

end Reference

end Switchboard
