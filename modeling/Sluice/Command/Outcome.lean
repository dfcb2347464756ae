import Sluice.Command.Usage
import Sluice.Sink.Plan
import Sluice.Workplace

/-!
# Commands and what they print

What each command prints to its two streams, and the code that it ends with: 0 when it has done what
it was asked for, 1 when that failed, and 2 when its arguments are wrong. Failures that a command
does not expect end it without a word; they are kept apart (`uncaught?`).
-/

namespace Sluice

/-- What a command has printed and how it ended; the store that was used, if it was opened. -/
structure Outcome (δ γ : Type) where
  stdout : List Log.Line := []
  stderr : List Text := []
  code : Nat := 0
  uncaught? : Option Config.LoadFailure := none
  backend? : Option (Backend δ γ) := none

namespace Outcome

variable {δ γ : Type}

/-- The version of the program. -/
def versionLine : Text := "main, version 0.1.0"

/-- Lines of text. -/
def texts (ts : List Text) : List Log.Line := ts.map .text

/-- A command that failed with a line on the second stream. -/
def failed (stdout : List Log.Line) (line : Text) : Outcome δ γ :=
  { stdout, stderr := [line], code := 1 }

/-- A command that ended with a failure that it does not expect. -/
def uncaught (stdout : List Log.Line) (f : Config.LoadFailure) : Outcome δ γ :=
  { stdout, code := 1, uncaught? := some f }

/-- A command whose arguments are wrong. -/
def misused (fault : Command.Fault) : Outcome δ γ :=
  { stderr := if fault.message.isEmpty then [] else ["Error: " ++ fault.message], code := 2 }

/-- How a command ends when its configuration cannot be loaded. -/
def notLoaded (label : Text) (f : Config.LoadFailure) : Outcome δ γ :=
  if f.failure.kind = .configuration then failed [] (label ++ f.failure.text) else uncaught [] f

/-- How a command ends when its records cannot be read. -/
def notRead (stdout : List Log.Line) (f : Failure) : Outcome δ γ :=
  if f.kind = .input then failed stdout ("Input error: " ++ f.text)
  else uncaught stdout { failure := f }

/-- The first rejections, one to a line. -/
def rejectionLines (shown : Record.Rejection → Text) (rejected : List (Nat × Record.Rejection)) :
    List Text :=
  (rejected.take 10).map fun (index, r) =>
    "    - record " ++ Text.ofNat index ++ ": " ++ shown r

/-! ## 1. Checking a configuration -/

/-- What a configuration is about, in lines. -/
def configLines (c : Config) : List Text :=
  [ "✓ Sink '" ++ c.name ++ "' is valid",
    "  Table: " ++ c.table ++ " (" ++ c.verb.word ++ ")",
    "  Key columns: " ++ Text.join ", " c.keyColumns,
    "  Fields: " ++ Text.ofNat c.schema.fields.length,
    "  Store: " ++ c.store.kind,
    "  Batching: " ++ Text.ofNat c.bounds.maxOperations ++ " operations / " ++
      Text.ofNat c.bounds.maxBytes ++ " bytes",
    "  Parallelism: " ++ Text.ofNat c.workers ]

/-- Loads a configuration with variables from the command line. -/
def withConfig (w : Workplace δ γ) (path : Text) (given : List Text) (label : Text)
    (use : Config → Outcome δ γ) : Outcome δ γ :=
  match Variables.read given with
  | .error fault => misused (.variable fault)
  | .ok vars =>
    match w.load path vars with
    | .error f => notLoaded label f
    | .ok c => use c

/-- Checks a configuration. -/
def validate (w : Workplace δ γ) (path : Text) (given : List Text) : Outcome δ γ :=
  withConfig w path given "✗ Sink validation failed: " fun c => { stdout := texts (configLines c) }

/-! ## 2. Planning -/

/-- A plan in lines. -/
def planLines (c : Config) (p : Plan) : List Text :=
  let counts : List Text :=
    [ "Dry-run for sink: " ++ c.name, "",
      "✓ Read " ++ Text.ofNat p.total ++ " records",
      "  Valid: " ++ Text.ofNat (p.total - p.rejected.length),
      "  Rejected: " ++ Text.ofNat p.rejected.length ]
  let target : List Text :=
    [ "",
      "✓ Would commit " ++ Text.ofNat p.batches.length ++ " batches to " ++ c.store.kind ++
        ":" ++ c.table ]
  let batches : List Text := p.batches.map fun b =>
    "  - " ++ b.id ++ ": " ++ Text.ofNat b.count ++ " operations, ~" ++ Text.ofNat b.size ++
      " bytes"
  let ending : List Text := ["", "Dry-run completed. Use 'spannerload run' to execute."]
  counts ++ rejectionLines (fun r => r.failure.text) p.rejected ++ target ++ batches ++ ending

/-- Plans what a run would do. -/
def dryRun (w : Workplace δ γ) (job : Job) : Outcome δ γ :=
  withConfig w job.configPath job.assignments "Config error: " fun c =>
    let settings : Log.Settings := ⟨job.level, job.json, none⟩
    match w.read job.format? job.inputPath c with
    | .error f => notRead [] f
    | .ok reading =>
      let (plan, log) := Plan.make c reading.source
      let lines := settings.lines (reading.log ++ log)
      match plan with
      | .ok p => { stdout := lines ++ texts (planLines c p) }
      | .error f => uncaught lines { failure := f }

/-! ## 3. Running -/

/-- The account of a run in lines. -/
def resultLines (r : SinkResult) : List Text :=
  let counts : List Text :=
    [ "  Records received: " ++ Text.ofNat r.received,
      "  Operations written: " ++ Text.ofNat r.written,
      "  Batches committed: " ++ Text.ofNat r.committed.length ]
  let heading : Text := "  Records rejected: " ++ Text.ofNat r.rejected.length
  counts ++ if r.rejected.isEmpty then [] else
    heading :: rejectionLines (fun r => r.message) r.rejected

/-- The failed batches in lines. -/
def failureLines (r : SinkResult) : List Text :=
  let heading : Text := "  Batches failed: " ++ Text.ofNat r.failed.length
  heading :: r.failed.map fun b =>
    "    - " ++ b.batch ++ ": " ++ ((b.failure?.map fun f => f.reason).getD "unknown")

/-- How a run ends that has an account. -/
def concluded (stdout : List Log.Line) (r : SinkResult) : Outcome δ γ :=
  if r.isOk then
    { stdout := stdout ++ texts (resultLines r) ++ texts ["Sink run completed successfully"] }
  else { stdout := stdout ++ texts (resultLines r), stderr := failureLines r, code := 1 }

/-- How a run ends. -/
def ended (stdout : List Log.Line) : Ending → Outcome δ γ
  | .done r => concluded stdout r
  | .failed f _ =>
    if f.kind = .sink then failed stdout ("Execution error: " ++ f.text)
    else uncaught stdout { failure := f }

/-- Writes the records of a file. -/
def run (w : Workplace δ γ) (job : Job) : Outcome δ γ :=
  withConfig w job.configPath job.assignments "Config error: " fun c =>
    let settings : Log.Settings := ⟨job.level, job.json, some c.name⟩
    match w.read job.format? job.inputPath c with
    | .error f => notRead [] f
    | .ok reading =>
      let r := w.write c reading.source
      let lines := settings.lines reading.log ++ texts ["Running sink: " ++ c.name] ++
        settings.lines r.log
      { (ended lines r.ending : Outcome δ γ) with backend? := r.session?.map (·.state) }

/-! ## 4. All commands -/

/-- The kinds of stores in alphabetical order. -/
def storeLines (w : Workplace δ γ) : List Text :=
  "Available Stores:" ::
    ((Backend.registry w.clients).names.mergeSort fun a b => !Text.lt b a).map fun kind =>
      "  - " ++ kind

/-- Does what the program is asked for. -/
def ofCommand (w : Workplace δ γ) : Command → Outcome δ γ
  | .help => {}
  | .version => { stdout := texts [versionLine] }
  | .stores => { stdout := texts (storeLines w) }
  | .validate path given => validate w path given
  | .run job => run w job
  | .dryRun job => dryRun w job

/-- Does what arguments ask for. -/
def ofArguments (w : Workplace δ γ) (args : List Text) : Outcome δ γ :=
  match Command.read w.folder.has args with
  | .ok c => ofCommand w c
  | .error fault => misused fault

end Outcome

end Sluice
