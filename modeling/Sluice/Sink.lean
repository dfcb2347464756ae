import Sluice.Commit
import Sluice.Metrics
import Sluice.Record.Transformer

/-!
# Sinks

A sink writes a stream of records into one table. A `Worker` takes records one by one, collects
their operations in an accumulator and keeps account of what became of every record and every batch;
a run is stopped by a record or a batch when the configuration says so (`Stop`). The account is the
`SinkResult`; the results of several workers are merged into one.
-/

namespace Sluice

/-- What has become of the records so far: how many came in, how many operations were written, the
batches committed and failed in order, and the records rejected with their positions. -/
structure SinkResult where
  received : Nat := 0
  written : Nat := 0
  committed : List CommitResult := []
  failed : List CommitResult := []
  rejected : List (Nat × Record.Rejection) := []
  metrics? : Option Metrics := none
  deriving Repr, Inhabited

namespace SinkResult

/-- Whether no batch failed; rejected records do not count. -/
def isOk (r : SinkResult) : Bool := r.failed.isEmpty

/-- Two results as one, rejected records in the order of their positions. -/
def merge (r other : SinkResult) : SinkResult :=
  { r with
    received := r.received + other.received, written := r.written + other.written
    committed := r.committed ++ other.committed, failed := r.failed ++ other.failed
    rejected := (r.rejected ++ other.rejected).mergeSort fun a b => a.1 ≤ b.1 }

end SinkResult

/-- Why a run is stopped. -/
inductive Stop where
  | batch (id : Text) (error : CommitError)
  | record (index : Nat) (r : Record.Rejection)
  | outside (f : Failure)
  deriving Repr

/-- The failure that a stopped sink reports. -/
def Stop.failure (sink : Text) : Stop → Failure
  | .batch id error =>
    { kind := .sink, message := "Batch " ++ id ++ " failed: " ++ error.message
      context := [("sink_name", .text sink), ("batch_id", .text id)] }
  | .record index r =>
    { kind := .sink
      message := "Record " ++ Text.ofNat index ++ " rejected: " ++ r.message
      context := [("sink_name", .text sink), ("record_index", .int index)] }
  | .outside f => f

/-- A worker: its open batch, its counts, and its account. -/
structure Worker where
  accumulator : Accumulator
  metrics : Metrics
  result : SinkResult := {}
  deriving Repr, Inhabited

namespace Worker

variable {σ : Type}

/-- A worker that has not begun; its batches are numbered under the given name. -/
def start (config : Config) (name : Text) (clock : Binary64) : Worker :=
  { accumulator := { bounds := config.bounds, name }
    metrics := { sink := config.name, start := clock } }

/-- What a worker does with a record: it goes on, with a batch to commit if one was sealed, or the
record is rejected, or the run is stopped at once. -/
inductive Taken where
  | sealed (batch? : Option Batch)
  | refused (r : Record.Rejection)
  | halted (h : Record.Halt)

/-- Takes the record at a position. -/
def accept (config : Config) (transformer : Transformer) (w : Worker) (index : Nat)
    (record : Value) (s : Session σ) : Taken × Worker × Session σ :=
  let w := { w with
    metrics := w.metrics.addReceived 1
    result := { w.result with received := w.result.received + 1 } }
  match transformer.transform record with
  | .ok o =>
    let (batch?, accumulator) := w.accumulator.add o
    (.sealed batch?, { w with accumulator }, s)
  | .error (.halted h) => (.halted h, w, s)
  | .error (.rejected r) =>
    let w := { w with
      metrics := w.metrics.addRejection r.failure index
      result := { w.result with rejected := w.result.rejected ++ [(index, r)] } }
    (.refused r, w,
      s.say .warning ("Record " ++ Text.ofNat index ++ " rejected: " ++ r.failure.text)
        [("table", .text config.table)])

/-- Seals the open batch if it holds anything. -/
def flush (w : Worker) : Option Batch × Worker :=
  let (batch?, accumulator) := w.accumulator.flush
  (batch?, { w with accumulator })

/-- Drops the open batch. -/
def discard (config : Config) (w : Worker) (s : Session σ) : Worker × Session σ :=
  let (dropped, accumulator) := w.accumulator.discard
  ({ w with accumulator },
    if dropped = 0 then s
    else s.say .warning ("Discarded " ++ Text.ofNat dropped ++ " uncommitted operations")
      [("table", .text config.table)])

/-- Takes account of a committed batch. -/
def recordSuccess (config : Config) (w : Worker) (batch : Batch) (r : CommitResult)
    (seconds : Binary64) (s : Session σ) : Worker × Session σ :=
  ({ w with
      metrics := w.metrics.addBatch batch.count seconds r.attempts
      result := { w.result with
        committed := w.result.committed ++ [r], written := w.result.written + r.succeeded } },
    s.say .info ("Committed batch with " ++ Text.ofNat batch.count ++ " operations")
      [("batch_id", .text batch.id), ("table", .text config.table)])

/-- Takes account of a failed batch. -/
def recordFailure (config : Config) (w : Worker) (batch : Batch) (e : CommitError)
    (r : CommitResult) (seconds : Binary64) (s : Session σ) : Worker × Session σ :=
  let f := e.failure batch.id
  ({ w with
      metrics := w.metrics.addFailure f batch.count r.attempts [("batch_id", .text batch.id)]
      result := { w.result with failed := w.result.failed ++ [r] } },
    s.say .error ("Batch failed after " ++ Number.writeFixed 2 seconds ++ "s: " ++ f.text)
      [("batch_id", .text batch.id), ("table", .text config.table)])

/-- Takes account of how a commit ended, and says whether that stops the run. -/
def settle (config : Config) (w : Worker) (batch : Batch) (verdict : Commit.Verdict)
    (seconds : Binary64) (s : Session σ) : Option Stop × Worker × Session σ :=
  match verdict with
  | .committed r => (none, w.recordSuccess config batch r seconds s)
  | .failed e r =>
    (match config.onBatchFailure with
      | .fail => some (.batch batch.id e)
      | .proceed => none,
      w.recordFailure config batch e r seconds s)
  | .broken f => (some (.outside f), w, s)

/-- Commits a batch. -/
def commit (config : Config) (store : Store σ) (w : Worker) (batch : Batch) (s : Session σ) :
    Option Stop × Worker × Session σ :=
  let begin_ := s.clock
  let (verdict, s) := Commit.run config.retry store batch s
  w.settle config batch verdict (s.clock - begin_) s

/-- Commits a batch if there is one. -/
def commit? (config : Config) (store : Store σ) (w : Worker) (batch? : Option Batch)
    (s : Session σ) : Option Stop × Worker × Session σ :=
  match batch? with
  | none => (none, w, s)
  | some batch => w.commit config store batch s

end Worker

/-- Records to be written, and the failure of their source behind the last of them, if any. -/
structure Source where
  records : List Value
  failure? : Option Failure := none
  deriving Repr, Inhabited

/-- A sink that is ready: what it is told, how it turns records into operations, the store in use,
and the counts of its runs. -/
structure Sink (σ : Type) where
  config : Config
  transformer : Transformer
  session : Session σ
  metrics : Metrics

end Sluice
