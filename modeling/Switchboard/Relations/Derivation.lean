import Switchboard.Relations.Basic

/-!
# Deriving relations

The relations of a data source follow from its fields and from the data sources it refers to. All
foreign keys are derived before any import, so the order of the fields does not matter to an import.
The first error ends the derivation.

Rules make the relation of one field; they may do work of their own while they do. The standard ones
check that what a reference names is there.

* `deriveKey_of_reference?_eq_none`: a field without a reference has no foreign key.
-/

namespace Switchboard

/-- The data sources that may be referred to, by id. -/
abbrev Targets := String → Option DataSource

/-- How the relation of a field is made. -/
structure RelationRules (m : Type → Type) where
  /-- The foreign key of a field with a reference that is not blank. -/
  foreignKey : DataSource → Field → String → Targets → ExceptT DerivationError m ForeignKey
  /-- The import of a field, given the foreign keys of its data source. -/
  importFrom : DataSource → Field → Import → ByField ForeignKey → Targets →
    ExceptT DerivationError m ImportFrom

namespace ForeignKey

/-- The foreign key of a field whose reference names a field of a data source that is there. -/
def build (d : DataSource) (f : Field) (reference : String) (targets : Targets) :
    Except DerivationError ForeignKey :=
  let r := Reference.parse reference f.name
  if r.isComplete then
    match targets r.dataSource with
    | none => .error (.unresolvedTarget d.id f.name r.dataSource)
    | some target =>
      match target.field? r.field with
      | none => .error (.missingTargetField d.id f.name r.dataSource r.field)
      | some _ => .ok ⟨d.id, f.name, target.id, r.field⟩
  else .error (.malformedReference d.id f.name reference)

end ForeignKey

namespace ImportFrom

/-- The import of a field through a foreign key, from a data source that is there and has the field
to be shown. -/
def build (d : DataSource) (f : Field) (i : Import) (keys : ByField ForeignKey)
    (targets : Targets) : Except DerivationError ImportFrom :=
  match keys[i.via]? with
  | none => .error (.missingForeignKey d.id f.name i.via)
  | some key =>
    match targets key.targetDataSource with
    | none => .error (.unresolvedTarget d.id f.name key.targetDataSource)
    | some related =>
      match related.field? i.displayField with
      | none => .error (.missingTargetField d.id f.name related.id i.displayField)
      | some _ => .ok ⟨d.id, f.name, i.via, related.id, i.displayField, i.summary⟩

end ImportFrom

/-- The rules that check what references name. -/
def RelationRules.standard {m : Type → Type} [Monad m] : RelationRules m where
  foreignKey d f reference targets := ExceptT.mk (pure (ForeignKey.build d f reference targets))
  importFrom d f i keys targets := ExceptT.mk (pure (ImportFrom.build d f i keys targets))

namespace Relations

variable {m : Type → Type} [Monad m]

/-- Adds the foreign key of a field, if it has a reference. -/
def deriveKey (rules : RelationRules m) (d : DataSource) (targets : Targets)
    (keys : ByField ForeignKey) (f : Field) : ExceptT DerivationError m (ByField ForeignKey) :=
  match f.reference? with
  | none => pure keys
  | some reference => do return keys.insert f.name (← rules.foreignKey d f reference targets)

/-- Adds the import of a field, if it has one. -/
def deriveImport (rules : RelationRules m) (d : DataSource) (targets : Targets)
    (keys : ByField ForeignKey) (imports : ByField ImportFrom) (f : Field) :
    ExceptT DerivationError m (ByField ImportFrom) :=
  match f.imported with
  | none => pure imports
  | some i => do return imports.insert f.name (← rules.importFrom d f i keys targets)

/-- The relations of a data source. -/
def derive (rules : RelationRules m) (d : DataSource) (targets : Targets) :
    ExceptT DerivationError m Relations := do
  let keys ← d.fields.foldlM (deriveKey rules d targets) ∅
  let imports ← d.fields.foldlM (deriveImport rules d targets keys) ∅
  return ⟨keys, imports⟩

/-- Whether two derivations found the same relations. -/
def agree (r s : Relations) : Bool :=
  r.foreignKeys.toList = s.foreignKeys.toList && r.imports.toList = s.imports.toList

theorem deriveKey_of_reference?_eq_none (rules : RelationRules m) (d : DataSource)
    (targets : Targets) (keys : ByField ForeignKey) {f : Field} (h : f.reference? = none) :
    deriveKey rules d targets keys f = pure keys := by
  rw [deriveKey, h]

end Relations

end Switchboard
