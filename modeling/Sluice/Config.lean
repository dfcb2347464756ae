import Sluice.Batch
import Sluice.Number.Binary64
import Sluice.Schema

/-!
# Configurations

What a sink is told: the table with its schema and key columns, the kind of write, the bounds of
batches, how often and when a failed submission is repeated, where the table lies, how many workers
write, and what a bad record or a failed batch means for the run.
-/

namespace Sluice

/-- How submissions are repeated: the number of retries, the delay before the first one, its growth
from one to the next, its upper limit, and the time that one attempt may take. -/
structure RetryPolicy where
  maxRetries : Nat
  delay : Binary64
  rate : Binary64
  maxDelay : Binary64
  timeout? : Option Binary64
  deriving Repr, Inhabited

/-- Where the table lies. -/
structure StoreSettings where
  kind : Text
  database? : Option Text
  project? : Option Text
  instance? : Option Text
  createTable : Bool
  deriving Repr, Inhabited

/-- What a record that is not accepted means for the run. -/
inductive RecordRule where
  | skip
  | fail
  deriving DecidableEq, Repr, Inhabited

/-- What a batch that failed means for the run. -/
inductive BatchRule where
  | fail
  | proceed
  deriving DecidableEq, Repr, Inhabited

def RecordRule.word : RecordRule → Text
  | .skip => "skip"
  | .fail => "fail"

def BatchRule.word : BatchRule → Text
  | .fail => "fail"
  | .proceed => "continue"

/-- The configuration of a sink. -/
structure Config where
  name : Text
  table : Text
  keyColumns : List Text
  verb : Verb
  schema : Schema
  bounds : Bounds
  retry : RetryPolicy
  store : StoreSettings
  workers : Nat
  onRecordError : RecordRule
  onBatchFailure : BatchRule
  deriving Repr, Inhabited

end Sluice
