import Sluice.Config
import Sluice.Log
import Sluice.Sink

/-!
# Plans

What a run would do with its records if every batch were committed: how many records there are,
which of them would be rejected, and how the operations of the others would be put into batches.
Nothing is written.
-/

namespace Sluice

/-- What would be done with records. -/
structure Plan where
  total : Nat
  rejected : List (Nat × Record.Rejection)
  batches : List Batch
  deriving Repr

namespace Plan

/-- The batches that operations are put into. -/
def batchesOf (a : Accumulator) : List Operation → List Batch
  | [] => a.flush.1.toList
  | o :: rest =>
    let (batch?, a) := a.add o
    batch?.toList ++ batchesOf a rest

/-- The operations among outcomes. -/
def operationsOf (outcomes : List Transformer.Outcome) : List Operation :=
  outcomes.filterMap fun o => match o.result with
    | .ok operation => some operation
    | .error _ => none

/-- The rejections among outcomes, with the positions of the records. -/
def rejectionsOf (outcomes : List Transformer.Outcome) : List (Nat × Record.Rejection) :=
  outcomes.filterMap fun o => match o.result with
    | .ok _ => none
    | .error r => some (o.index, r)

/-- The entries of the log about rejected records. -/
def entries (table : Text) (rejected : List (Nat × Record.Rejection)) : List Log.Entry :=
  rejected.map fun (index, r) =>
    { level := .debug
      message := "Record " ++ Text.ofNat index ++ " rejected: " ++ r.failure.text
      members := [Value.entry "table" (.text table)] }

/-- The plan of outcomes. -/
def ofOutcomes (bounds : Bounds) (outcomes : List Transformer.Outcome) : Plan :=
  { total := outcomes.length
    rejected := rejectionsOf outcomes
    batches := batchesOf { bounds, name := "batch" } (operationsOf outcomes) }

/-- The plan for the records of a source, and the log; a record that stops a run leaves no plan, nor
does a source that fails. -/
def make (config : Config) (source : Source) : Except Failure Plan × List Log.Entry :=
  match Transformer.make config.table config.schema config.keyColumns config.verb with
  | .error f => (.error f, [])
  | .ok transformer =>
    let (outcomes, halt?) := transformer.transformAll 0 source.records
    let log := entries config.table (rejectionsOf outcomes)
    match halt?, source.failure? with
    | some h, _ => (.error h.failure, log)
    | none, some f => (.error f, log)
    | none, none => (.ok (ofOutcomes config.bounds outcomes), log)

end Plan

end Sluice
