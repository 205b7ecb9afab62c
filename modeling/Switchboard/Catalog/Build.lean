import Switchboard.Catalog.Basic
import Switchboard.Dispatch.Connection
import Switchboard.Registry.Basic

/-!
# Building a registry from a catalog

The entries of a catalog become handlers, the data sources first and then the handlers, each in
their order; a server object that cannot be resolved ends it. The handlers make a registry, so that
of entries that share an id the last stays, and a handler stays before a data source.

* `toHandlers_empty`: the empty catalog has no handlers.
-/

namespace Switchboard

variable {σ : Type}

/-- Why a catalog has no registry. -/
inductive BuildError where
  /-- A catalog cannot be read from where it is kept. -/
  | file (path reason : String)
  /-- A text is no catalog. -/
  | parse
  /-- The server object of an entry cannot be resolved. -/
  | resolution (id : String) (error : ResolutionError)
  /-- The relations of a data source cannot be derived. -/
  | registry (error : DerivationError)
deriving DecidableEq, Repr

namespace BuildError

/-- What is reported; of a text that is no catalog nothing more is said. -/
def message : BuildError → String
  | file path reason => s!"failed to read {path}: {reason}"
  | parse => "catalog parse error"
  | resolution id error => s!"handler '{id}': {error.message}"
  | registry error => error.message

/-- What the errors behind it say. -/
def causes : BuildError → List String
  | file _ reason => [reason]
  | resolution _ error => [error.message]
  | _ => []

end BuildError

/-- Resolves the server object of an entry. -/
def Directory.resolveEntry (dir : Directory σ) (id : String) (o : ServerObject) :
    Attempt σ BuildError (DirectHandler σ) :=
  (dir.resolve id o).adapt (.resolution id)

/-- The handler of a data source: its server object, or one that supports nothing. -/
def DataSourceEntry.toHandler (e : DataSourceEntry) (dir : Directory σ) :
    Attempt σ BuildError (Handler σ) :=
  match e.serverObject with
  | none => return Handler.ofDataSource e.definition none
  | some o => do return ((← dir.resolveEntry e.id o).bearing e.definition).toHandler

/-- The handler of a standalone entry. -/
def HandlerEntry.toHandler (e : HandlerEntry) (dir : Directory σ) :
    Attempt σ BuildError (Handler σ) := do
  return (← dir.resolveEntry e.id e.serverObject).toHandler

namespace Catalog

/-- The handlers of all entries. -/
def toHandlers (c : Catalog) (dir : Directory σ) : Attempt σ BuildError (List (Handler σ)) := do
  let sources ← c.dataSources.mapM (·.toHandler dir)
  let handlers ← c.handlers.mapM (·.toHandler dir)
  return sources ++ handlers

/-- The registry of a catalog. -/
def toRegistry (c : Catalog) (dir : Directory σ) : Attempt σ BuildError (Registry σ Id) := do
  let batch ← c.toHandlers dir
  match Registry.ofHandlers batch with
  | .ok registry => return registry
  | .error e => throw (.registry e)

@[simp] theorem toHandlers_empty (dir : Directory σ) : Catalog.empty.toHandlers dir = pure [] := by
  simp [toHandlers, Catalog.empty]

end Catalog

end Switchboard
