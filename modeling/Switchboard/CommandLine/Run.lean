import Switchboard.Catalog.Build
import Switchboard.CommandLine.Arguments
import Switchboard.Json.Document
import Switchboard.Json.Printer
import Switchboard.Query.Binding

/-!
# Running a command

A command builds the registry of the layered catalogs and writes a report about it, line by line. An
error ends it, with what was written before it.

* `run_of_no_catalogs`: without catalogs nothing is written.
-/

namespace Switchboard.CommandLine

variable {σ : Type}

/-- Why a command failed. -/
inductive Error where
  | noCatalog
  | loading (path : String) (error : BuildError)
  | config (error : BuildError)
  | lookup (error : NoHandler)
  | relation (error : NoRelation)
  | noDataSource (id : String)
  | request
  | invoking (id : String) (error : InvocationError)
deriving DecidableEq, Repr

namespace Error

/-- What is reported first. -/
def message : Error → String
  | noCatalog => "no catalog given; pass at least one --catalog"
  | loading path _ => s!"loading {path}"
  | config error => error.message
  | lookup error => error.message
  | relation error => error.message
  | noDataSource id => s!"'{id}' is a handler without a data source definition"
  | request => "parsing request"
  | invoking id _ => s!"invoking '{id}'"

/-- What the errors behind it say, as far as that is determined: of a text that cannot be read it is
not. -/
def causes? : Error → Option (List String)
  | loading _ .parse => none
  | loading _ error => some (error.message :: error.causes)
  | config error => some error.causes
  | request => none
  | invoking _ error => some (error.message :: error.causes)
  | _ => some []

end Error

/-- The work of a command: it writes a report, and may fail. -/
abbrev Report (σ α : Type) : Type := ExceptT Error (StateT String (StateM σ)) α

/-- Writes a line. -/
def writeLine (line : String) : Report σ Unit := modify (· ++ line ++ "\n")

/-- Goes on with a result, or fails. -/
def orFail {ε α : Type} (f : ε → Error) : Except ε α → Report σ α
  | .ok a => return a
  | .error e => throw (f e)

/-- Does work that may fail. -/
def attempt {ε α : Type} (f : ε → Error) (x : Attempt σ ε α) : Report σ α := do
  orFail f (← (x.run : Work σ (Except ε α)))

/-- A place that files are read from: the text of a path, or why there is none. -/
abbrev Files := String → Except String String

/-- The catalog in the file of a path. -/
def loadCatalog (files : Files) (path : String) : Except BuildError Catalog :=
  match files path with
  | .error reason => .error (.file path reason)
  | .ok text =>
    match Catalog.ofText? text with
    | some c => .ok c
    | none => .error .parse

/-- The catalogs in the files of some paths, layered. -/
def loadCatalogs (files : Files) (paths : List String) : Report σ Catalog := do
  if paths.isEmpty then throw .noCatalog
  return .ofLayers (← paths.mapM fun path => orFail (.loading path) (loadCatalog files path))

/-- Builds the registry that a command is about. -/
def loadRegistry (types : List (TypeTable σ)) (files : Files) (args : Arguments) :
    Report σ (Registry σ Id) := do
  let c ← loadCatalogs files args.catalogs
  let c := if args.skipServerObjects then c.withoutServerObjects else c
  attempt .config (c.toRegistry ⟨.ofRegistrations types, none⟩)

/-! ## Commands -/

/-- Reports what the registry holds. -/
def check (r : Registry σ Id) : Report σ Unit := do
  let sources := r.dataSources
  writeLine s!"ok: {r.size} handlers, {sources.length} data sources"
  for d in sources do
    let keys ← orFail .relation (r.foreignKeysOf d.id)
    let imports ← orFail .relation (r.importsOf d.id)
    writeLine (s!"  {d.id}: {d.fields.length} fields, {keys.length} foreign keys, " ++
      s!"{imports.length} imports, {d.bindings.length} bindings")

/-- The line of a foreign key. -/
def keyLine (k : ForeignKey) : String :=
  s!"foreign-key  {k.dataSource}.{k.field} -> {k.targetDataSource}.{k.targetField}"

/-- The line of an import. -/
def importLine (i : ImportFrom) : String :=
  s!"import-from  {i.dataSource}.{i.field} <- {i.relatedDataSource}.{i.displayField}" ++
    s!" via {i.viaField}" ++
    match i.summary with
    | some s => s!" ({s.title})"
    | none => ""

/-- Reports the relations of a data source. -/
def relations (r : Registry σ Id) (dataSource : String) : Report σ Unit := do
  for k in ← orFail .relation (r.foreignKeysOf dataSource) do
    writeLine (keyLine k)
  for i in ← orFail .relation (r.importsOf dataSource) do
    writeLine (importLine i)

/-- The clauses of a binding with their names, as far as there are any. -/
def clauseLines (b : OperationBinding) : List String :=
  [("select", b.selectClause), ("table", b.tableClause), ("where", b.whereClause),
    ("order", b.orderClause), ("join", b.joinClause), ("custom_sql", b.statement)].filterMap
    fun (name, clause) => clause.map fun c => s!"  {name}: {c}"

/-- Reports the binding in effect for an operation, and whether it needs templating. -/
def templating (r : Registry σ Id) (dataSource : String) (operation : Operation)
    (operationId : Option String) : Report σ Unit := do
  let h ← orFail .lookup (r.lookup dataSource)
  let some d := h.dataSource | throw (.noDataSource dataSource)
  let request := { Request.new dataSource operation with operationId }
  match d.bindingFor? request with
  | some b =>
    let id := match b.operationId with
      | some id => s!" ({id})"
      | none => ""
    writeLine (s!"binding: {operation.name}" ++ id)
    for line in clauseLines b do
      writeLine line
  | none => writeLine "binding: none"
  writeLine ("templating required: " ++ if d.needsTemplating request then "yes" else "no")

/-- The request that a text writes; without a text it is a bare request to fetch. -/
def readRequest (handler : String) : Option String → Except Error Request
  | none => .ok (.fetch handler)
  | some text =>
    match Json.ofText? text with
    | none => .error .request
    | some j =>
      match Request.layout.read .strict j with
      | .ok r => .ok r
      | .error _ => .error .request

/-- Sends a request to a handler and writes the response. -/
def invoke (r : Registry σ Id) (handler : String) (text : Option String) : Report σ Unit := do
  let h ← orFail .lookup (r.lookup handler)
  let request ← orFail id (readRequest handler text)
  let response ← attempt (.invoking handler) (h.handle request)
  writeLine (Json.pretty (Response.layout.write response))

/-- Runs a command on a registry. -/
def Command.run (r : Registry σ Id) : Command → Report σ Unit
  | .check => CommandLine.check r
  | .relations dataSource => CommandLine.relations r dataSource
  | .templating dataSource operation operationId =>
    CommandLine.templating r dataSource operation operationId
  | .invoke handler request => CommandLine.invoke r handler request

/-- Runs the command of a command line. -/
def run (types : List (TypeTable σ)) (files : Files) (args : Arguments) : Report σ Unit := do
  args.command.run (← loadRegistry types files args)

theorem run_of_no_catalogs (types : List (TypeTable σ)) (files : Files) (args : Arguments)
    (h : args.catalogs = []) (out : String) (s : σ) :
    ((run types files args).run.run out).run s = ((.error .noCatalog, out), s) := by
  simp only [run, loadRegistry, loadCatalogs, h]
  rfl

end Switchboard.CommandLine
