import Sluice.Failure
import Sluice.Number.Shortest

/-!
# Metrics

Counts of what a run has done, the times that its batches took, and the failures that it met.
Counters of one collector may be folded into another (`merge`); times are taken from a clock that
the caller reads.
-/

namespace Sluice

/-- A failure that was met: its kind, its text, and where it belongs. -/
structure FailureNote where
  label : Text
  text : Text
  context : List (Text × Value)
  deriving Repr, Inhabited

/-- What a run has done so far. -/
structure Metrics where
  sink : Text
  start : Binary64
  finish? : Option Binary64 := none
  received : Int := 0
  rejected : Int := 0
  committed : Int := 0
  failed : Int := 0
  written : Int := 0
  lost : Int := 0
  attempts : Int := 0
  elapsed : Binary64 := .zero
  batchTimes : List Binary64 := []
  failures : List FailureNote := []
  deriving Repr, Inhabited

namespace Metrics

/-- Records that became operations. -/
def transformed (m : Metrics) : Int := m.received - m.rejected

private def note (m : Metrics) (f : Failure) (context : List (Text × Value)) : Metrics :=
  { m with failures := m.failures ++ [⟨f.kind.label, f.text, context⟩] }

/-- Records have come in. -/
def addReceived (m : Metrics) (count : Int) : Metrics := { m with received := m.received + count }

/-- A record was rejected. -/
def addRejection (m : Metrics) (f : Failure) (index : Int) : Metrics :=
  note { m with rejected := m.rejected + 1 } f [("record_index", .int index)]

/-- A batch was committed. -/
def addBatch (m : Metrics) (operations : Int) (seconds : Binary64) (attempts : Int) : Metrics :=
  { m with
    committed := m.committed + 1, written := m.written + operations
    attempts := m.attempts + attempts, batchTimes := m.batchTimes ++ [seconds] }

/-- A batch failed. -/
def addFailure (m : Metrics) (f : Failure) (operations attempts : Int)
    (context : List (Text × Value)) : Metrics :=
  note
    { m with
      failed := m.failed + 1, lost := m.lost + operations, attempts := m.attempts + attempts }
    f context

/-- Folds the counters of another collector into this one. -/
def merge (m other : Metrics) : Metrics :=
  { m with
    received := m.received + other.received, rejected := m.rejected + other.rejected
    committed := m.committed + other.committed, failed := m.failed + other.failed
    written := m.written + other.written, lost := m.lost + other.lost
    attempts := m.attempts + other.attempts, batchTimes := m.batchTimes ++ other.batchTimes
    failures := m.failures ++ other.failures }

/-- The run has ended, as far as it is known now. -/
def finish (m : Metrics) (clock : Binary64) : Metrics :=
  { m with finish? := some clock, elapsed := clock - m.start }

/-- The mean time of a batch, zero when there is none. -/
def meanBatchTime (m : Metrics) : Binary64 :=
  if m.batchTimes.isEmpty then .zero
  else m.batchTimes.foldl (· + ·) .zero / .ofInt m.batchTimes.length

/-- Records per second, zero when no time has passed. -/
def rate (m : Metrics) : Binary64 :=
  if Binary64.zero.lt m.elapsed then .ofInt m.transformed / m.elapsed else .zero

private def noteValue (n : FailureNote) : Value :=
  .ofPairs
    ([Value.entry "error_type" (.text n.label), Value.entry "error_message" (.text n.text)] ++
    (if n.context.isEmpty then [] else [Value.entry "context" (.ofPairs n.context)]))

/-- The metrics as named values. -/
def report (m : Metrics) : List (Text × Value) :=
  [ ("sink_name", .text m.sink), ("execution_time", .float m.elapsed),
    ("records_received", .int m.received), ("records_transformed", .int m.transformed),
    ("records_rejected", .int m.rejected), ("batches_committed", .int m.committed),
    ("batches_failed", .int m.failed), ("operations_committed", .int m.written),
    ("operations_failed", .int m.lost), ("commit_attempts", .int m.attempts),
    ("avg_batch_time", .float m.meanBatchTime), ("records_per_second", .float m.rate),
    ("error_details", .list (m.failures.map noteValue)) ]

/-- The metrics, ended now if they were not; an end at time zero counts as none. -/
def ended (m : Metrics) (clock : Binary64) : Metrics :=
  match m.finish? with
  | none => m.finish clock
  | some t => if t.isZero then m.finish clock else m

/-- The metrics in one line. -/
def summary (m : Metrics) : Text :=
  Text.join " | "
    ([ "Sink: " ++ m.sink, "Records: " ++ Text.ofInt m.received,
       "Batches: " ++ Text.ofInt m.committed, "Operations: " ++ Text.ofInt m.written,
       "Time: " ++ Number.writeFixed 2 m.elapsed ++ "s",
       "Rate: " ++ Number.writeFixed 0 m.rate ++ " records/s" ] ++
     (if 0 < m.rejected then ["Rejected: " ++ Text.ofInt m.rejected] else []) ++
     (if 0 < m.failed then ["Failed batches: " ++ Text.ofInt m.failed] else []))

end Metrics

end Sluice
