import Switchboard.Operation

/-!
# Arguments of the command line

The arguments are options and one command with its own arguments. The options that name catalogs,
leave out server objects, or ask for more messages may stand before the command or behind its name.
Catalogs named behind the command take the place of those named before it.

An option that takes a value has it attached, behind an equals sign or directly behind its letter,
or as the next argument, which must not look like an option. An option is given at most once on
either side, catalogs apart. Behind two hyphens everything is an argument of the command.
-/

namespace Switchboard.CommandLine

/-- What is to be done. -/
inductive Command where
  | check
  | relations (dataSource : String)
  | templating (dataSource : String) (operation : Operation) (operationId : Option String)
  | invoke (handler : String) (request : Option String)
deriving DecidableEq, Repr

/-- The arguments of a command line. -/
structure Arguments where
  catalogs : List String
  skipServerObjects : Bool
  verbose : Bool
  command : Command
deriving DecidableEq, Repr

/-- What is accepted on one side of a command line. -/
structure Grammar where
  /-- The names that end the side. -/
  commands : List String
  /-- How many arguments without a name there are. -/
  positionals : Nat
  /-- The option with a value that belongs to the command. -/
  ownOption : Option String

/-- What was given on one side of a command line. -/
structure Given where
  catalogs : List String
  flags : List String
  ownValue : Option String
  positionals : List String

namespace Given

/-- Nothing. -/
def nothing : Given := ⟨[], [], none, []⟩

/-- One flag more, which was not given yet. -/
def addFlag? (g : Given) (flag : String) : Option Given :=
  if g.flags.contains flag then none else some { g with flags := flag :: g.flags }

/-- One catalog more, which has a path. -/
def addCatalog? (g : Given) (path : String) : Option Given :=
  if path = "" then none else some { g with catalogs := g.catalogs ++ [path] }

/-- The value of the option of the command, which was not given yet. -/
def setOwn? (g : Given) (value : String) : Option Given :=
  if g.ownValue.isSome then none else some { g with ownValue := some value }

/-- One argument without a name more, as far as the command has any. -/
def addPositional? (g : Given) (grammar : Grammar) (value : String) : Option Given :=
  if g.positionals.length < grammar.positionals then
    some { g with positionals := g.positionals ++ [value] }
  else none

end Given

/-- Whether an argument looks like an option. -/
def isOption (arg : String) : Bool :=
  match arg.toList with
  | '-' :: _ :: _ => true
  | _ => false

/-- What an option does. -/
inductive Effect where
  | flag (name : String)
  | catalog
  | own

/-- What an option with a long name does. -/
def longEffect? (grammar : Grammar) (name : String) : Option Effect :=
  if name = "catalog" then some .catalog
  else if name = "skip-dmi" || name = "verbose" then some (.flag name)
  else if grammar.ownOption = some name then some .own
  else none

/-- Takes in the value of an option. -/
def Effect.take? (e : Effect) (g : Given) (value : String) : Option Given :=
  match e with
  | .flag _ => none
  | .catalog => g.addCatalog? value
  | .own => g.setOwn? value

/-- What letters behind one hyphen do: flags, and at last perhaps an option whose value is what
follows its letter. The result tells whether the value is still to come. -/
def letters? (g : Given) : List Char → Option (Given × Bool)
  | [] => some (g, false)
  | 'v' :: cs => do letters? (← g.addFlag? "verbose") cs
  | 'c' :: cs =>
    match cs with
    | [] => some (g, true)
    | '=' :: value => (g.addCatalog? (.ofList value)).map (·, false)
    | value => (g.addCatalog? (.ofList value)).map (·, false)
  | _ => none

/-- What an argument is. -/
inductive Kind where
  | command
  | separator
  | long (name : String) (value : Option String)
  | short (letters : List Char)
  | plain

/-- What an argument is where a grammar holds. -/
def kind (grammar : Grammar) (arg : String) : Kind :=
  if grammar.commands.contains arg then .command
  else match arg.toList with
    | ['-', '-'] => .separator
    | '-' :: '-' :: cs =>
      let name := String.ofList (cs.takeWhile (· ≠ '='))
      match cs.dropWhile (· ≠ '=') with
      | [] => .long name none
      | _ :: value => .long name (some (.ofList value))
    | '-' :: c :: cs => .short (c :: cs)
    | _ => .plain

/-- Reads one side of a command line, up to a command; an option may wait for its value. -/
def read? (grammar : Grammar) (g : Given) (waiting : Option Effect) :
    List String → Option (Given × List String)
  | [] => if waiting.isSome then none else some (g, [])
  | arg :: args =>
    match waiting with
    | some e => if isOption arg then none else do read? grammar (← e.take? g arg) none args
    | none =>
      match kind grammar arg with
      | .command => some (g, arg :: args)
      | .separator => do return (← args.foldlM (·.addPositional? grammar ·) g, [])
      | .long name value => do
        let e ← longEffect? grammar name
        match e, value with
        | .flag name, none => read? grammar (← g.addFlag? name) none args
        | e, some value => read? grammar (← e.take? g value) none args
        | e, none => read? grammar g (some e) args
      | .short cs => do
        let (g, isWaiting) ← letters? g cs
        read? grammar g (if isWaiting then some .catalog else none) args
      | .plain => do read? grammar (← g.addPositional? grammar arg) none args

/-- The names of the commands. -/
def commandNames : List String := ["check", "relations", "templating", "invoke"]

/-- What is accepted before the command. -/
def before : Grammar := ⟨commandNames ++ ["help"], 0, none⟩

/-- What is accepted behind a command. -/
def behind? (name : String) : Option Grammar :=
  if name = "check" then some ⟨[], 0, none⟩
  else if name = "relations" then some ⟨[], 1, none⟩
  else if name = "templating" then some ⟨[], 2, some "operation-id"⟩
  else if name = "invoke" then some ⟨[], 1, some "request"⟩
  else none

/-- The command of a name, from what was given behind it. -/
def command? (name : String) (g : Given) : Option Command :=
  match g.positionals with
  | [] => if name = "check" then some .check else none
  | [first] =>
    if name = "relations" then some (.relations first)
    else if name = "invoke" then some (.invoke first g.ownValue)
    else none
  | [first, second] =>
    if name = "templating" then
      (Operation.ofName? second).map fun op => .templating first op g.ownValue
    else none
  | _ => none

/-- The arguments of a command line, if they are accepted. -/
def parse? (args : List String) : Option Arguments := do
  let (global, rest) ← read? before .nothing none args
  match rest with
  | [] => none
  | name :: rest =>
    let grammar ← behind? name
    let (own, _) ← read? grammar .nothing none rest
    let command ← command? name own
    let flags := global.flags ++ own.flags
    return {
      catalogs := if own.catalogs.isEmpty then global.catalogs else own.catalogs
      skipServerObjects := flags.contains "skip-dmi"
      verbose := flags.contains "verbose"
      command }

end Switchboard.CommandLine
