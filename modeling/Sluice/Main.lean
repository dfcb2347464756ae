import Sluice.Command.Outcome
import Sluice.Exchange.Reports
import Sluice.Json.Writer

/-!
# The command line

Collects what a command may need before it is carried out: the files that its arguments name and the
variables of the environment that those ask for. Then it prints what the command has printed. Tables
are written to memory; no other client is built in.
-/

namespace Sluice

/-- The file with a name, if it can be read. -/
def fileAt? (name : String) : IO (Option (Text × List UInt8)) := do
  try
    let content ← IO.FS.readBinFile name
    return some ((name : Text), content.toList)
  catch _ => return none

/-- A variable of the environment, if it is set. -/
def variableAt? (name : Text) : IO (Option (Text × Text)) := do
  match name.toString? with
  | none => return none
  | some s => return (← IO.getEnv s).map fun value => (name, (value : Text))

/-- A database client that cannot connect. -/
def noDatabase : Sql.Script :=
  { Sql.Script.willing with
    connectFailure? := some (.outside "Error" "no database client is built in") }

/-- The place that the program is called from. -/
def currentPlace (arguments : List String) : IO (Workplace Sql.Script Cloud.Script) := do
  let folder : Folder := ⟨← arguments.filterMapM fileAt?⟩
  let names := (arguments.map Text.ofString).flatMap fun a => Config.environmentNames folder a
  return {
    folder
    environment := ← names.filterMapM variableAt?
    clients := ⟨noDatabase, none⟩
    database := Sql.Script.client
    cloud := Cloud.Script.client }

/-- A line of the first stream. -/
def shownLine : Log.Line → String
  | .text t => t.toDisplay
  | l => (Exchange.line l).write

end Sluice

open Sluice in
/-- Does what the arguments ask for. -/
def main (arguments : List String) : IO UInt32 := do
  let outcome := Outcome.ofArguments (← currentPlace arguments) (arguments.map Text.ofString)
  for l in outcome.stdout do
    IO.println (shownLine l)
  for t in outcome.stderr do
    IO.eprintln t.toDisplay
  if let some f := outcome.uncaught? then
    IO.eprintln ((f.failure.kind.label ++ ": " ++ f.failure.text : Text).toDisplay)
  return outcome.code.toUInt32
