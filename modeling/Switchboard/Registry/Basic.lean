import Switchboard.Dispatch.Handler
import Switchboard.Relations.Derivation

/-!
# Registries

A registry holds handlers by id, and the relations of the data sources that they bear. It is
extended by a batch of handlers, into a new registry: first all handlers are put in their places,
the last of an id staying, and then the relations are derived of every data source in the batch, so
that handlers of one batch may refer to each other in any order. A handler that gives way takes the
relations of its data source with it. An error leaves nothing behind.

* `handlers_put`: what putting in a handler changes.
* `distinct_nodup`, `mem_distinct`, `distinct_of_nodup`: the ids of a batch, each once.
-/

namespace Switchboard

open Std (ExtTreeMap)

/-- The two kinds of relations. -/
inductive RelationKind where
  | foreignKey
  | importFrom
deriving DecidableEq, Repr

/-- The name in a report. -/
def RelationKind.title : RelationKind → String
  | .foreignKey => "foreign-key"
  | .importFrom => "import-from"

/-- Why a relation is not found. -/
inductive NoRelation where
  /-- The data source has never had its relations derived, or lost them. -/
  | unknownDataSource (dataSource : String)
  /-- The field has no relation of the kind. -/
  | unknownRelation (dataSource field : String) (kind : RelationKind)
deriving DecidableEq, Repr

/-- What is reported. -/
def NoRelation.message : NoRelation → String
  | unknownDataSource dataSource => s!"unknown data source '{dataSource}'"
  | unknownRelation dataSource field kind =>
    s!"data source '{dataSource}' has no {kind.title} relation on field '{field}'"

/-- That no handler is registered under an id. -/
structure NoHandler where
  id : String
deriving DecidableEq, Repr

/-- What is reported. -/
def NoHandler.message (e : NoHandler) : String :=
  s!"no handler registered under '{e.id}'"

/-- The elements of a list, each where it first occurs. -/
def distinct : List String → List String
  | [] => []
  | x :: xs => x :: (distinct xs).filter (· ≠ x)

@[simp] theorem mem_distinct {x : String} {xs : List String} : x ∈ distinct xs ↔ x ∈ xs := by
  induction xs with
  | nil => simp [distinct]
  | cons y ys ih =>
    by_cases h : x = y <;> simp [distinct, ih, h]

theorem distinct_nodup (xs : List String) : (distinct xs).Nodup := by
  induction xs with
  | nil => simp [distinct]
  | cons y ys ih => exact List.nodup_cons.2 ⟨by simp, List.Pairwise.filter _ ih⟩

theorem distinct_of_nodup {xs : List String} (h : xs.Nodup) : distinct xs = xs := by
  induction xs with
  | nil => rfl
  | cons x xs ih =>
    obtain ⟨hx, hxs⟩ := List.nodup_cons.1 h
    rw [distinct, ih hxs, List.filter_eq_self.2]
    intro y hy
    simpa using ne_of_mem_of_not_mem hy hx

/-- Handlers by id, the relations of data sources, and the rules of relations. -/
structure Registry (σ : Type) (m : Type → Type) where
  handlers : ExtTreeMap String (Handler σ)
  foreignKeys : ExtTreeMap String (ByField ForeignKey)
  imports : ExtTreeMap String (ByField ImportFrom)
  rules : RelationRules m

namespace Registry

variable {σ : Type} {m : Type → Type}

/-- The registry without handlers. -/
def empty (rules : RelationRules m) : Registry σ m := ⟨∅, ∅, ∅, rules⟩

/-- The registry with other rules for what is derived from now on. -/
def withRules {n : Type → Type} (r : Registry σ m) (rules : RelationRules n) : Registry σ n :=
  ⟨r.handlers, r.foreignKeys, r.imports, rules⟩

/-! ## Looking up -/

/-- The handler of an id. -/
def get? (r : Registry σ m) (id : String) : Option (Handler σ) := r.handlers[id]?

/-- Whether there is a handler of an id. -/
def contains (r : Registry σ m) (id : String) : Bool := r.handlers.contains id

/-- The number of handlers. -/
def size (r : Registry σ m) : Nat := r.handlers.size

/-- The ids of the handlers, in order. -/
def ids (r : Registry σ m) : List String := r.handlers.keys

/-- The handler of an id, or an error. -/
def lookup (r : Registry σ m) (id : String) : Except NoHandler (Handler σ) :=
  match r.get? id with
  | some h => .ok h
  | none => .error ⟨id⟩

/-- The data source that the handler of an id bears. -/
def dataSource? (r : Registry σ m) : Targets := fun id => (r.get? id).bind (·.dataSource)

/-- The data sources of all handlers, in order of their ids. -/
def dataSources (r : Registry σ m) : List DataSource :=
  (r.handlers.values.filterMap (·.dataSource)).mergeSort fun a b => decide (a.id ≤ b.id)

/-- A relation in an index by data source and field. -/
def relation {ρ : Type} (index : ExtTreeMap String (ByField ρ)) (kind : RelationKind)
    (dataSource field : String) : Except NoRelation ρ :=
  match index[dataSource]? with
  | none => .error (.unknownDataSource dataSource)
  | some fields =>
    match fields[field]? with
    | none => .error (.unknownRelation dataSource field kind)
    | some relation => .ok relation

/-- The relations of a data source in an index, in order of the fields they name. -/
def relations {ρ : Type} (index : ExtTreeMap String (ByField ρ)) (field : ρ → String)
    (dataSource : String) : Except NoRelation (List ρ) :=
  match index[dataSource]? with
  | none => .error (.unknownDataSource dataSource)
  | some fields => .ok (fields.values.mergeSort fun a b => decide (field a ≤ field b))

/-- The foreign key of a field. -/
def foreignKey (r : Registry σ m) : String → String → Except NoRelation ForeignKey :=
  relation r.foreignKeys .foreignKey

/-- The import of a field. -/
def importFrom (r : Registry σ m) : String → String → Except NoRelation ImportFrom :=
  relation r.imports .importFrom

/-- The foreign keys of a data source, in order of their fields. -/
def foreignKeysOf (r : Registry σ m) : String → Except NoRelation (List ForeignKey) :=
  relations r.foreignKeys (·.field)

/-- The imports of a data source, in order of their fields. -/
def importsOf (r : Registry σ m) : String → Except NoRelation (List ImportFrom) :=
  relations r.imports (·.field)

/-- What a report shows of a registry. -/
def summary (r : Registry σ m) : String :=
  "RuntimeRegistry \x7b handlers: " ++ toString r.size ++ ", indexed_data_sources: " ++
    toString r.foreignKeys.size ++ " \x7d"

/-! ## Extending -/

/-- The registry without the relations of a data source. -/
def forget (r : Registry σ m) (dataSource : String) : Registry σ m :=
  { r with
    foreignKeys := r.foreignKeys.erase dataSource
    imports := r.imports.erase dataSource }

/-- Puts a handler in its place; one that gives way takes its relations with it. -/
def put (r : Registry σ m) (h : Handler σ) : Registry σ m :=
  let cleared := match r.dataSource? h.id with
    | some d => r.forget d.id
    | none => r
  { cleared with handlers := r.handlers.insert h.id h }

@[simp] theorem handlers_put (r : Registry σ m) (h : Handler σ) :
    (r.put h).handlers = r.handlers.insert h.id h := rfl

variable [Monad m]

/-- The relations that a data source would have, were it registered now. -/
def derive (r : Registry σ m) (d : DataSource) : ExceptT DerivationError m Relations :=
  Relations.derive r.rules d r.dataSource?

/-- Derives the relations of the data source that the handler of an id bears. -/
def deriveFor (r : Registry σ m) (id : String) : ExceptT DerivationError m (Registry σ m) :=
  match r.dataSource? id with
  | none => pure r
  | some d => do
    let derived ← r.derive d
    return { r with
      foreignKeys := r.foreignKeys.insert d.id derived.foreignKeys
      imports := r.imports.insert d.id derived.imports }

/-- The registry with a batch of handlers on top. -/
def extend (r : Registry σ m) (batch : List (Handler σ)) :
    ExceptT DerivationError m (Registry σ m) :=
  (distinct (batch.map (·.id))).foldlM deriveFor (batch.foldl put r)

/-- The registry of a batch of handlers. -/
def ofBatch (rules : RelationRules m) (batch : List (Handler σ)) :
    ExceptT DerivationError m (Registry σ m) :=
  (empty rules).extend batch

/-- The registry of a batch of handlers, by the standard rules. -/
def ofHandlers (batch : List (Handler σ)) : Except DerivationError (Registry σ Id) :=
  (ofBatch (RelationRules.standard : RelationRules Id) batch).run

end Registry

end Switchboard
