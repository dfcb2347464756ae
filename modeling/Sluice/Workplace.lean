import Sluice.Config.File
import Sluice.Input.Records
import Sluice.Sink.Execution
import Sluice.Store.Backend

/-!
# Workplaces

A workplace holds what the outside offers to a run: files, variables of the environment, and the
clients of stores. Loading a configuration, reading its input and writing the records are steps of
their own; `writeFile` does one after the other.
-/

namespace Sluice

/-- Where a run takes place: the files, the variables of the environment, the clients of stores and
how to use them, and the time at the start. -/
structure Workplace (δ γ : Type) where
  folder : Folder
  environment : List (Text × Text) := []
  clients : Clients δ γ
  database : Sql.Client δ
  cloud : Cloud.Client γ
  clock : Binary64 := .zero

namespace Workplace

variable {δ γ : Type}

/-- The configuration in a file. -/
def load (w : Workplace δ γ) (path : Text) (vars : List (Text × Text)) :
    Except Config.LoadFailure Config :=
  Config.load w.folder w.environment vars path

/-- The records in a file, converted for the schema of a configuration. -/
def read (w : Workplace δ γ) (format? : Option Text) (path : Text) (c : Config) :
    Except Failure Input.Reading :=
  Input.readRecords w.folder format? path (some c.schema)

/-- Writes records to the store that a configuration asks for. -/
def write (w : Workplace δ γ) (c : Config) (source : Source) : Run (Backend δ γ) :=
  Sink.execute c (Backend.store w.database w.cloud) (Backend.ofSettings w.clients c.store) true
    source w.clock

/-- Writes the records in a file as the configuration in another one says. -/
def writeFile (w : Workplace δ γ) (configPath : Text) (vars : List (Text × Text))
    (format? : Option Text) (inputPath : Text) : Except Config.LoadFailure Ending := do
  let c ← w.load configPath vars
  match w.read format? inputPath c with
  | .error f => .error { failure := f }
  | .ok reading => .ok (w.write c reading.source).ending

end Workplace

end Sluice
