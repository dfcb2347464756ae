import Sluice.Operation

/-!
# Batches

Operations are grouped into batches that are submitted as a whole. An accumulator holds the open
batch; it seals the batch when that holds `maxOperations` operations or at least `maxBytes` bytes,
and before an operation that would take a batch with operations beyond `maxBytes`. So a batch
exceeds that bound only when it holds a single operation.

The state of an accumulator is `Accumulator.open_`, the operations not yet sealed, and the number of
batches sealed so far, which numbers them.
-/

namespace Sluice

/-- A sealed group of operations. -/
structure Batch where
  id : Text
  operations : List Operation
  deriving Repr, Inhabited

/-- The estimated size of operations together. -/
def totalSize : List Operation → Nat
  | [] => 0
  | o :: rest => o.size + totalSize rest

namespace Batch

/-- The estimated size in bytes. -/
def size (b : Batch) : Nat := totalSize b.operations

def count (b : Batch) : Nat := b.operations.length

end Batch

/-- How large batches may become. -/
structure Bounds where
  maxOperations : Nat
  maxBytes : Nat
  deriving DecidableEq, Repr, Inhabited

namespace Bounds

/-- A bound that is too small. -/
inductive Fault where
  | operations
  | bytes
  deriving DecidableEq, Repr

/-- The wording of a fault. -/
def Fault.message : Fault → Text
  | .operations => "max_operations must be at least 1"
  | .bytes => "max_bytes must be at least 1"

/-- Bounds that let every batch hold something. -/
def make (maxOperations maxBytes : Int) : Except Fault Bounds :=
  if maxOperations < 1 then .error .operations
  else if maxBytes < 1 then .error .bytes
  else .ok ⟨maxOperations.toNat, maxBytes.toNat⟩

end Bounds

/-- An open batch, the name that batches are numbered under, and the number sealed so far. -/
structure Accumulator where
  bounds : Bounds
  name : Text
  open_ : List Operation := []
  sealed : Nat := 0
  deriving Repr, Inhabited

namespace Accumulator

/-- The estimated size of the open operations. -/
def bytes (a : Accumulator) : Nat := totalSize a.open_

/-- The batch of the open operations, which must then be emptied. -/
def batch (a : Accumulator) : Batch :=
  ⟨a.name ++ .char '-' :: Text.ofNat (a.sealed + 1), a.open_⟩

/-- Seals the open batch. -/
def close (a : Accumulator) : Batch × Accumulator :=
  (a.batch, { a with open_ := [], sealed := a.sealed + 1 })

/-- Puts an operation behind the open ones. -/
def append (a : Accumulator) (o : Operation) : Accumulator :=
  { a with open_ := a.open_ ++ [o] }

/-- Whether the open batch has reached a bound. -/
def isFull (a : Accumulator) : Bool :=
  a.bounds.maxOperations ≤ a.open_.length || a.bounds.maxBytes ≤ a.bytes

/-- Takes an operation, and returns the batch that this seals, if any. -/
def add (a : Accumulator) (o : Operation) : Option Batch × Accumulator :=
  if !a.open_.isEmpty && a.bounds.maxBytes < a.bytes + o.size then
    let (b, a) := a.close
    (some b, a.append o)
  else
    let a := a.append o
    if a.isFull then
      let (b, a) := a.close
      (some b, a)
    else (none, a)

/-- Seals the open batch if it holds anything. -/
def flush (a : Accumulator) : Option Batch × Accumulator :=
  if a.open_.isEmpty then (none, a)
  else
    let (b, a) := a.close
    (some b, a)

/-- Empties the open batch and returns how many operations are dropped. -/
def discard (a : Accumulator) : Nat × Accumulator :=
  (a.open_.length, { a with open_ := [] })

end Accumulator

end Sluice
