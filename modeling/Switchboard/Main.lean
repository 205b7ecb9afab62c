import Switchboard.CommandLine.Echo
import Switchboard.CommandLine.Run

/-!
# The program

Reads the catalogs that the command line names, runs the command, and prints its report.
-/

open Switchboard CommandLine

/-- The number of a system error, which may be reported as its negative. -/
def systemNumber (code : UInt32) : UInt32 := min code (0 - code)

/-- Why a file could not be read. -/
def fileReason : IO.Error → String
  | .noFileOrDirectory _ code _ => s!"No such file or directory (os error {systemNumber code})"
  | .permissionDenied _ code _ => s!"Permission denied (os error {systemNumber code})"
  | .inappropriateType _ code _ =>
    if systemNumber code = 20 then "Not a directory (os error 20)"
    else s!"Is a directory (os error {systemNumber code})"
  | error => toString error

/-- The texts of files, or why they could not be read. -/
def readFiles (paths : List String) : IO (List (String × Except String String)) :=
  paths.mapM fun (path : String) => do
    try
      return (path, .ok (← IO.FS.readFile path))
    catch error =>
      return (path, .error (fileReason error))

/-- Prints an error and what is behind it. -/
def printError (error : CommandLine.Error) : IO Unit := do
  IO.eprintln ("Error: " ++ error.message)
  let causes := error.causes?.getD []
  unless causes.isEmpty do
    IO.eprintln "\nCaused by:"
    for cause in causes do
      IO.eprintln ("    " ++ cause)

/-- Runs the command line. -/
def main (args : List String) : IO UInt32 := do
  match parse? args with
  | none =>
    IO.eprintln "usage: switchboard [-c PATH]... [--skip-dmi] [-v] COMMAND"
    IO.eprintln "commands: check, relations, templating, invoke"
    return 2
  | some arguments =>
    let texts ← readFiles arguments.catalogs
    let files : Files := fun path => (texts.lookup path).getD (.error "not read")
    let types : List (TypeTable Unit) := [echoTable]
    let ((outcome, report), _) := ((run types files arguments).run.run "").run ()
    IO.print report
    match outcome with
    | .ok _ => return 0
    | .error error =>
      printError error
      return 1
