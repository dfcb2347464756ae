import Sluice.Sink.Parallel
import Sluice.Sink.Sequential

/-!
# Runs of a sink

A run makes the table ready, writes the records in one of two ways, and closes the store if it was
made for the run. How a run ended is an `Ending`: its account, or a failure, to which the account
of what was done before is attached when the failure is one of the sink's own.

* `Sink.setup` makes the table ready;
* `Sink.writeBy` writes, and reports the failures of the source and of the store as they are;
* `Sink.execute` is a whole run, in which every other failure becomes one of the sink.
-/

namespace Sluice

/-- How a run ended. -/
inductive Ending where
  | done (r : SinkResult)
  | failed (f : Failure) (partial? : Option SinkResult)
  deriving Repr

/-- How records are written. -/
inductive Way where
  | sequential
  | parallel (workers : Int)
  deriving DecidableEq, Repr

/-- A run that is over: its ending, the session unless no store could be had, and the log. -/
structure Run (σ : Type) where
  ending : Ending
  session? : Option (Session σ)
  log : List Log.Entry

namespace Parallel

/-- The failure of a number of workers below one. -/
def noWorkers : Failure := .outside "ValueError" "parallelism must be at least 1"

/-- A number of workers that can share the work. -/
def workers (count : Int) : Except Failure Nat :=
  if count < 1 then .error noWorkers else .ok count.toNat

/-- The room of a queue: what is asked for, or as much as a batch holds. -/
def room (config : Config) (asked? : Option Int) : Int :=
  match asked? with
  | some n => if n = 0 then config.bounds.maxOperations else n
  | none => config.bounds.maxOperations

/-- The failure of a parallel run that is started within another one. -/
def nested : Failure :=
  { kind := .sink
    message := "run_async() cannot be used inside a running event loop; await instead" }

end Parallel

namespace Sink

variable {σ : Type}

/-! ## 1. Beginning and end -/

/-- What tells the failures of setting a sink up apart. -/
def setupContext (config : Config) : List (Text × Value) :=
  [("sink_name", .text config.name), ("store_type", .text config.store.kind)]

/-- The failure of a store that cannot be had. -/
def storeFailure (config : Config) (f : Failure) : Failure :=
  { kind := .sink, message := "Failed to create store: " ++ f.text, context := setupContext config }

/-- The failure of a table that cannot be made ready. -/
def prepareFailure (config : Config) (f : Failure) : Failure :=
  { kind := .sink, message := "Failed to prepare table '" ++ config.table ++ "': " ++ f.text
    context := setupContext config }

/-- Closes a store that was made for the run. -/
def release (store : Store σ) (owned : Bool) (s : Session σ) : Session σ :=
  if owned then { s with state := store.close s.state } else s

/-- Adds an entry about a sink to the log. -/
def report (config : Config) (level : Log.Level) (message : Text) (s : Session σ) : Session σ :=
  s.say level message [("sink_name", .text config.name)]

/-- Adds an entry about a sink and its table to the log. -/
def reportTable (config : Config) (message : Text) (s : Session σ) : Session σ :=
  s.say .info message [("sink_name", .text config.name), ("table", .text config.table)]

/-- Makes the table ready. -/
def setup (config : Config) (store : Store σ) (owned : Bool) (s : Session σ) :
    Except Failure (Sink σ) × Session σ :=
  match Transformer.make config.table config.schema config.keyColumns config.verb with
  | .error f => (.error f, s)
  | .ok transformer =>
    let reply := store.prepare s.state config.table config.schema config.keyColumns
    let s := s.after reply
    match reply.outcome with
    | .error f => (.error (prepareFailure config f), release store owned s)
    | .ok _ =>
      let s := report config .debug
        ("Sink ready: table=" ++ config.table ++ ", store=" ++ config.store.kind) s
      (.ok { config, transformer, session := s
             metrics := { sink := config.name, start := s.clock } }, s)

/-- Leaves the store. -/
def teardown (config : Config) (store : Store σ) (owned : Bool) (s : Session σ) : Session σ :=
  report config .debug "Sink closed" (release store owned s)

/-! ## 2. Writing -/

/-- How a run in sequence ended. -/
def sequentialEnding (config : Config) (r : SinkResult) : Option Stop → Ending
  | none => .done r
  | some (.outside f) => .failed f none
  | some stop => .failed (stop.failure config.name) (some r)

/-- How a parallel run ended. -/
def parallelEnding (config : Config) (count : Nat) (r : SinkResult) : Option Stop → Ending
  | none => .done r
  | some stop => .failed (Parallel.failureOf config count stop) (some r)

/-- Writes the records of a source in one of the two ways. -/
def writeBy (store : Store σ) (sink : Sink σ) (way : Way) (source : Source) : Ending × Sink σ :=
  match way with
  | .sequential =>
    let (stop?, r, sink) := sink.write store source
    (sequentialEnding sink.config r stop?, sink)
  | .parallel asked =>
    let sink := { sink with
      session := reportTable sink.config ("Writing with " ++ Text.ofInt asked ++ " workers")
        sink.session }
    match Parallel.workers asked with
    | .error f => (.failed f none, sink)
    | .ok count =>
      let (stop?, r, sink) := sink.writeParallel store count source
      (parallelEnding sink.config count r stop?, sink)

/-- A run without an account of its own: setting up, writing and leaving the store. -/
def runBare (config : Config) (store : Store σ) (owned : Bool) (way : Way) (source : Source)
    (s : Session σ) : Ending × Session σ :=
  match setup config store owned s with
  | (.error f, s) => (.failed f none, s)
  | (.ok sink, _) =>
    let (ending, sink) := sink.writeBy store way source
    (ending, teardown config store owned sink.session)

/-! ## 3. Whole runs -/

/-- The failure of a run that something other than the sink has ended. -/
def executionFailure (config : Config) (metrics : Metrics) (f : Failure) : Failure :=
  { kind := .sink, message := "Execution failed: " ++ f.text
    context := [("sink_name", .text config.name), ("metrics", .ofPairs metrics.report)] }

/-- What is left to do when writing has ended: failures are logged, and those that are not the
sink's become its own. -/
def conclusion (sink : Sink σ) : Ending → Ending × Session σ
  | .done r => (.done r, sink.session)
  | .failed f partial? =>
    if f.kind = .sink then
      let metrics := sink.metrics.ended sink.session.clock
      (.failed f partial?,
        report sink.config .error ("Sink stopped: " ++ metrics.summary) sink.session)
    else
      let metrics := sink.metrics.finish sink.session.clock
      let failure := executionFailure sink.config metrics f
      (.failed failure none, report sink.config .error failure.message sink.session)

/-- A whole run with a store that is there. -/
def executeWith (config : Config) (store : Store σ) (owned : Bool) (source : Source)
    (s : Session σ) : Ending × Session σ :=
  match setup config store owned s with
  | (.error f, s) => (.failed f none, s)
  | (.ok sink, _) =>
    let way : Way := if 1 < config.workers then .parallel config.workers else .sequential
    let (ending, sink) := sink.writeBy store way source
    let (ending, s) := sink.conclusion ending
    let s := teardown config store owned s
    match ending with
    | .done r =>
      let metrics := sink.metrics.ended s.clock
      (.done r, report config .info ("Completed sink: " ++ metrics.summary) s)
    | ending => (ending, s)

/-- A whole run; `opened` is the store, or why it cannot be had, and `owned` says whether it was
made for the run. -/
def execute (config : Config) (store : Store σ) (opened : Except Failure σ) (owned : Bool)
    (source : Source) (clock : Binary64) : Run σ :=
  let starting : Text := "Starting sink with parallelism=" ++ Text.ofNat config.workers
  match opened with
  | .error f =>
    let s := reportTable config starting { state := (), clock }
    ⟨.failed (storeFailure config f) none, none, s.log⟩
  | .ok state =>
    let (ending, s) := executeWith config store owned source
      (reportTable config starting { state, clock })
    ⟨ending, some s, s.log⟩

/-- A run without an account of its own, in the given way. -/
def runWay (config : Config) (store : Store σ) (opened : Except Failure σ) (owned : Bool)
    (way : Way) (source : Source) (clock : Binary64) : Run σ :=
  match opened with
  | .error f => ⟨.failed (storeFailure config f) none, none, []⟩
  | .ok state =>
    let (ending, s) := runBare config store owned way source { state, clock }
    ⟨ending, some s, s.log⟩

end Sink

end Sluice
