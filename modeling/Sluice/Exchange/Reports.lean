import Sluice.Cloud.Store
import Sluice.Config.File
import Sluice.Exchange.Values
import Sluice.Sink.Execution
import Sluice.Sql.Store
import Sluice.Store.Scripted

/-!
# Reports in exchange

The JSON forms of what the library answers: failures with their context, what is wrong with a
configuration, schemas, operations, batches, commits, accounts of sinks, metrics, lines of the log,
and the calls that clients were made.
-/

namespace Sluice.Exchange

/-! ## 1. Failures -/

private def noteMember : Value × Value → Option (Text × Json)
  | (.text label, .mapping es) =>
    some (label, .array (es.map fun (k, v) => .array [write k, write v]))
  | (.text label, v) => some (label, write v)
  | _ => none

/-- Metrics as an object. -/
def metrics (report : List (Text × Value)) : Json :=
  object (report.map fun (label, v) => (label, match v with
    | .list notes => .array (notes.map fun n => object ((n.entries?.getD []).filterMap noteMember))
    | v => write v))

private def named : Value × Value → Option (Text × Value)
  | (.text label, v) => some (label, v)
  | _ => none

private def contextPair : Text × Value → Json
  | (label, v) => .array [writeText label, match label == Text.ofString "metrics", v with
    | true, .mapping es => metrics (es.filterMap named)
    | _, v => write v]

/-- The members of a failure; only the kinds of this library carry a context. -/
def failureMembers (f : Failure) : List (Text × Json) :=
  let head := [entry "error" (name f.kind.label), entry "message" (writeText f.message)]
  match f.kind with
  | .outside _ => head
  | kind =>
    head ++ [entry "context" (.array (f.context.map contextPair))] ++
    (if kind.isRecord then [entry "field" (orNull writeText f.place?)] else []) ++
    (if kind = .commitRejected ∨ kind = .storeRejected then
      [entry "operation_index" (orNull (fun (n : Nat) => number n) f.operation?)] else []) ++
    (if kind = .commitExhausted then [entry "attempts" (number (f.attempts?.getD 0))] else [])

def failure (f : Failure) : Json := object (failureMembers f)

/-- A result or a failure. -/
def outcome {α : Type} (f : α → Json) : Except Failure α → Json
  | .ok a => success (f a)
  | .error e => failure e

/-- A call that yields nothing, or its failure. -/
def done (r : Except Failure Unit) : Json := outcome (fun _ => .null) r

private def step : Step → Json
  | .member label => writeText label
  | .item index => number index

/-- Issues in order, each with its place, its kind and its wording. -/
def issueList (is : List Issue) : Json :=
  .array (is.map fun i =>
    .array [.array (i.place.map step), name i.cause.kind, writeText i.cause.message])

/-- What is wrong with a value. -/
def refusal (is : List Issue) : Json :=
  object [entry "error" (name "ValidationError"), entry "errors" (issueList is)]

/-- What was read, or what is wrong with it. -/
def checked {α : Type} (f : α → Json) : Checked α → Json
  | .ok a => success (f a)
  | .error is => refusal is

/-- What is wrong with a configuration. -/
def configRefusal : Config.Refusal → Json
  | .unnamed => failure Config.unnamedFailure
  | .issues is => refusal is

/-- Why a configuration cannot be loaded. -/
def loadFailure (f : Config.LoadFailure) : Json :=
  object (failureMembers f.failure ++ entry? "errors" (f.issues?.map issueList))

/-- A variable that is given wrongly. -/
def variableFault (f : Variables.Fault) : Json :=
  object [entry "error" (name "BadParameter"), entry "message" (writeText f.message),
    entry "param_hint" (name Variables.option)]

/-- Variables in order; null when there are none. -/
def assigned (vars : List (Text × Text)) : Json :=
  if vars.isEmpty then .null
  else .array (vars.map fun (k, v) => .array [writeText k, writeText v])

/-! ## 2. Schemas, operations and batches -/

def field : Field → Json
  | .scalar fieldName nullable type element? members? =>
    describe (.scalar fieldName nullable type element? members?) (element element?)
      (members members?)
  | .array fieldName nullable elementField members? =>
    describe (.array fieldName nullable elementField members?) (some (field elementField))
      (members members?)
  | .record fieldName nullable memberFields element? =>
    describe (.record fieldName nullable memberFields element?) (element element?)
      (some (fields memberFields))
where
  /-- A description with its parts. -/
  describe (f : Field) (element? : Option Json) (members? : Option (List Json)) : Json :=
    object ([entry "name" (writeText f.name), entry "type" (name f.typeWord),
      entry "type_name" (writeText f.typeName), entry "nullable" (.bool f.nullable)] ++
      entry? "element" element? ++ entry? "fields" (members?.map .array))
  /-- Descriptions in order. -/
  fields : List Field → List Json
    | [] => []
    | f :: rest => field f :: fields rest
  /-- The description of an element. -/
  element : Option Field → Option Json
    | some f => some (field f)
    | none => none
  /-- The descriptions of members. -/
  members : Option (List Field) → Option (List Json)
    | some fs => some (fields fs)
    | none => none

def schemaFields (s : Schema) : Json := .array (s.fields.map field)

def operationMembers (o : Operation) : List (Text × Json) :=
  [entry "table" (writeText o.table), entry "kind" (name o.verb.word),
    entry "columns" (writeRow o.columns), entry "key_columns" (.array (o.keyColumns.map writeText)),
    entry "key" (.array (o.key.map write)), entry "size" (number o.size)]

def batch (b : Batch) : Json :=
  object [entry "batch_id" (writeText b.id), entry "count" (number b.count),
    entry "len" (number b.count), entry "size_bytes" (number b.size),
    entry "keys" (.array (b.operations.map fun o => .array (o.key.map write)))]

def rows (rs : List Row) : Json := .array (rs.map writeRow)

/-! ## 3. Configurations -/

private def retry (p : RetryPolicy) : Json :=
  object [entry "max_retries" (number p.maxRetries), entry "retry_delay" (writeFloat p.delay),
    entry "backoff_rate" (writeFloat p.rate), entry "max_delay" (writeFloat p.maxDelay),
    entry "commit_timeout" (orNull writeFloat p.timeout?)]

private def storeSettings (s : StoreSettings) : Json :=
  object [entry "type" (writeText s.kind), entry "database" (orNull writeText s.database?),
    entry "project" (orNull writeText s.project?), entry "instance" (orNull writeText s.instance?),
    entry "create_table" (.bool s.createTable)]

def config (c : Config) : Json :=
  object [entry "name" (writeText c.name), entry "table" (writeText c.table),
    entry "key_columns" (.array (c.keyColumns.map writeText)), entry "operation" (name c.verb.word),
    entry "schema" (schemaFields c.schema),
    entry "batching" (object [entry "max_operations" (number c.bounds.maxOperations),
      entry "max_bytes" (number c.bounds.maxBytes)]),
    entry "retry" (retry c.retry), entry "store" (storeSettings c.store),
    entry "parallelism" (number c.workers), entry "on_record_error" (name c.onRecordError.word),
    entry "on_batch_failure" (name c.onBatchFailure.word)]

/-! ## 4. Commits, sinks and logs -/

def commit (r : CommitResult) : Json :=
  object [entry "batch_id" (writeText r.batch), entry "succeeded" (number r.succeeded),
    entry "attempts" (number r.attempts), entry "state" (name r.state.word),
    entry "committed" (.bool (r.state = .committed)), entry "terminal" (.bool r.state.isTerminal),
    entry "history" (.array (r.history.map fun s => name s.word)),
    entry "failure" (orNull (fun f => object [entry "reason" (writeText f.reason),
      entry "operation_index" (orNull (fun (n : Nat) => number n) f.operation?)]) r.failure?)]

/-- How the commit of a batch ended. -/
def verdict (b : Batch) : Commit.Verdict → Json
  | .committed r => success (commit r)
  | .failed e r => object (failureMembers (e.failure b.id) ++ [entry "result" (commit r)])
  | .broken f => failure f

private def rejected : Nat × Record.Rejection → Json
  | (index, r) =>
    .array [number index, name r.kind.label, writeText r.message, writeText r.path]

/-- The account of a sink. -/
def account (r : SinkResult) : Json :=
  object [ entry "records_received" (number r.received),
    entry "operations_written" (number r.written),
    entry "ok" (.bool r.isOk), entry "committed" (.array (r.committed.map commit)),
    entry "failed" (.array (r.failed.map commit)),
    entry "rejected" (.array (r.rejected.map rejected)),
    entry "metrics" (match r.metrics? with
      | some m => metrics m.report
      | none => object [])]

/-- How a run ended. -/
def ending : Ending → List (Text × Json)
  | .done r => [entry "result" (account r)]
  | .failed f partial? => failureMembers f ++ entry? "result" (partial?.map account)

/-- A value as it stands in a line of the log. -/
def plain : Value → Json
  | .mapping es => object (plainEntries es)
  | .list xs => .array (plainItems xs)
  | .text t => .string t
  | v => write v
where
  /-- The items of a list. -/
  plainItems : List Value → List Json
    | [] => []
    | x :: rest => plain x :: plainItems rest
  /-- The entries of a mapping. -/
  plainEntries : List (Value × Value) → List (Text × Json)
    | [] => []
    | (k, v) :: rest => (k.shown, plain v) :: plainEntries rest

/-- A line of the log. -/
def line : Log.Line → Json
  | .text t => writeText t
  | .json members => object (members.map fun (k, v) => (k, plain v))

/-- The lines of a log, if it is asked for. -/
def logs (settings? : Option Log.Settings) (log : List Log.Entry) : List (Text × Json) :=
  entry? "logs" (settings?.map fun s => .array ((s.lines log).map line))

/-! ## 5. Calls -/

private def call (label : Text) (arguments : List Json) : Json := .array (name label :: arguments)

def sqlCall : Sql.Call → Json
  | .connect database => call "connect" [writeText database]
  | .execute s =>
    call "execute" [writeText s.text, orNull (fun vs => .array (vs.map write)) s.parameters?]
  | .close => call "close" []
  | .startTimer seconds => call "timer_start" [writeFloat seconds, .bool true]
  | .stopTimer => call "timer_cancel" []

def cloudCall : Cloud.Call → Json
  | .client project? => call "client" [orNull writeText project?]
  | .instance_ instance? => call "instance" [orNull writeText instance?]
  | .database database? => call "database" [orNull writeText database?]
  | .hasTable table => call "exists" [writeText table]
  | .define statement => call "ddl" [.array [writeText statement]]
  | .transaction timeout? =>
    call "transaction"
      [.array (timeout?.map fun t => .array [name "timeout_secs", writeFloat t]).toList]
  | .buffer (.write verb table columns values) =>
    call verb.word [writeText table, .array (columns.map writeText),
      .array [.array (values.map write)]]
  | .buffer (.delete table keys) =>
    call "delete" [writeText table, .array (keys.map fun k => .array (k.map write))]
  | .close => call "close" []

/-- The submissions to a scripted store: how many operations, and the time limit. -/
def submits (xs : List (Nat × Option Binary64)) : Json :=
  .array (xs.map fun (n, timeout?) => .array [number n, orNull writeFloat timeout?])

/-- The tables that a scripted store was made to prepare. -/
def prepared (s : Scripted) : Json :=
  .array (s.prepared.map fun (table, names, keys) =>
    .array [writeText table, .array (names.map writeText), .array (keys.map writeText)])

end Sluice.Exchange
