import Sluice.Operation
import Sluice.Record.Conversion

/-!
# From records to operations

A transformer turns every record into one operation on its table: the key columns must be there and
not null, then the columns of the schema (for a deletion only the key columns) are converted in
order, missing ones becoming null where that is allowed. The first fault in that order rejects the
record.
-/

namespace Sluice

/-- How records become operations on one table. -/
structure Transformer where
  table : Text
  schema : Schema
  keyColumns : List Text
  verb : Verb
  deriving Repr, Inhabited

namespace Transformer

open Record

/-- The key columns that the schema does not have. -/
def unknownKeys (schema : Schema) (keyColumns : List Text) : List Text :=
  keyColumns.filter fun name => (schema.field? name).isNone

/-- The failure of key columns that the schema does not have. -/
def unknownKeysFailure (table : Text) (schema : Schema) (names : List Text) : Failure :=
  { kind := .configuration
    message := "Key columns not found in schema: " ++ Text.join ", " names
    context := [("table", .text table), ("schema_fields", .list (schema.names.map .text))] }

/-- The transformer of a table, unless the schema lacks a key column. -/
def make (table : Text) (schema : Schema) (keyColumns : List Text) (verb : Verb) :
    Except Failure Transformer :=
  match unknownKeys schema keyColumns with
  | [] => .ok ⟨table, schema, keyColumns, verb⟩
  | names => .error (unknownKeysFailure table schema names)

/-- The fields that an operation carries, each once. -/
def fields (t : Transformer) : List Field :=
  match t.verb with
  | .delete => t.keyColumns.eraseDups.filterMap t.schema.field?
  | _ => t.schema.fields

/-- The first key column that is missing or null in a mapping. -/
def missingKey? (es : List (Value × Value)) (keyColumns : List Text) : Option Text :=
  keyColumns.find? fun name => ((Value.lookup name es).getD .null).isNull

/-- The columns of an operation, up to the first refusal; `member` finds a column's value. -/
def convertColumns (member : Text → Except Refusal (Option Value)) :
    List Field → Except Refusal Row
  | [] => .ok []
  | f :: rest => do
    let v ← match ← member f.name with
      | some v => f.convert f.name v
      | none => f.convertAbsent f.name
    let row ← convertColumns member rest
    return (f.name, v) :: row

/-- Finds a name in a record that is not a mapping. -/
def memberOf (record : Value) (name : Text) : Except Refusal (Option Value) :=
  match record with
  | .list xs =>
    if xs.any (Value.same (.text name)) then .error (.halted (.notByName "list")) else .ok none
  | .tuple xs =>
    if xs.any (Value.same (.text name)) then .error (.halted (.notByName "tuple")) else .ok none
  | .set xs =>
    if xs.any (Value.same (.text name)) then .error (.halted (.notSubscriptable "set"))
    else .ok none
  | .text t =>
    if occurs name t then .error (.halted .textNotByName) else .ok none
  | .bytes _ => .error (.halted .bytesContainer)
  | .buffer _ => .error (.halted .bytesContainer)
  | .view _ => .ok none
  | v => .error (.halted (.notContainer v.kindName))
where
  /-- Whether a text occurs in another. -/
  occurs (name : Text) : Text → Bool
    | [] => name.isEmpty
    | c :: rest => name.isPrefixOf (c :: rest) || occurs name rest

/-- The operation of a record. -/
def transform (t : Transformer) (record : Value) : Except Refusal Operation :=
  let finish := fun row => (⟨t.table, t.verb, row, t.keyColumns⟩ : Operation)
  match record.entries? with
  | some es =>
    match missingKey? es t.keyColumns with
    | some name => .error (.rejected (.missingKey name))
    | none => (convertColumns (fun name => .ok (Value.lookup name es)) t.fields).map finish
  | none =>
    if t.keyColumns.isEmpty then (convertColumns (memberOf record) t.fields).map finish
    else .error (.halted (.notMapping record.kindName))

/-- The outcome of one record: an operation, or why the record is rejected. -/
structure Outcome where
  index : Nat
  result : Except Rejection Operation

/-- The outcomes of records in order, up to a record at which the run stops. -/
def transformAll (t : Transformer) : Nat → List Value → List Outcome × Option Halt
  | _, [] => ([], none)
  | i, record :: rest =>
    match t.transform record with
    | .ok o =>
      let (outcomes, halt) := transformAll t (i + 1) rest
      (⟨i, .ok o⟩ :: outcomes, halt)
    | .error (.rejected r) =>
      let (outcomes, halt) := transformAll t (i + 1) rest
      (⟨i, .error r⟩ :: outcomes, halt)
    | .error (.halted h) => ([], some h)

end Transformer

end Sluice
