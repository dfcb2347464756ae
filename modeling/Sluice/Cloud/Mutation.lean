import Sluice.Operation
import Sluice.Schema
import Sluice.Text.Base64

/-!
# Mutations

What is sent to the cloud database for an operation: the columns and their values, or the key of the
row to delete. The values of byte columns are sent in base64. Tables can hold scalars and arrays of
scalars only (`columnType?`).
-/

namespace Sluice.Cloud

/-- A write of one row, or the deletion of the rows with the given keys. -/
inductive Mutation where
  | write (verb : Verb) (table : Text) (columns : List Text) (values : List Value)
  | delete (table : Text) (keys : List (List Value))
  deriving Repr

/-! ## 1. Tables -/

/-- The column type of a scalar. -/
def scalarType : Scalar → Text
  | .bool => "BOOL"
  | .int32 => "INT64"
  | .int64 => "INT64"
  | .float => "FLOAT32"
  | .double => "FLOAT64"
  | .numeric => "NUMERIC"
  | .string => "STRING(MAX)"
  | .bytes => "BYTES(MAX)"
  | .timestamp => "TIMESTAMP"
  | .date => "DATE"

/-- A field that no table can hold. -/
structure Unsupported where
  type : Text
  field : Text
  deriving DecidableEq, Repr

/-- The wording of the refusal. -/
def Unsupported.message (u : Unsupported) : Text :=
  "Spanner columns cannot hold " ++ u.type ++ " (field '" ++ u.field ++ "')"

/-- The column type of a field. -/
def columnType : Field → Except Unsupported Text
  | .scalar _ _ type .. => .ok (scalarType type)
  | .array name nullable element spare =>
    match element with
    | .scalar _ _ type .. => .ok ("ARRAY<" ++ scalarType type ++ ">")
    | _ => .error ⟨(Field.array name nullable element spare).typeName, name⟩
  | .record name .. => .error ⟨"RECORD", name⟩

/-- The definitions of columns; key columns take no null. -/
def columnDefinitions (keyColumns : List Text) : List Field → Except Unsupported (List Text)
  | [] => .ok []
  | f :: rest => do
    let type ← columnType f
    let notNull : Text := if f.nullable && !keyColumns.contains f.name then [] else " NOT NULL"
    return (f.name ++ .char ' ' :: type ++ notNull) :: (← columnDefinitions keyColumns rest)

/-- The definition of a table. -/
def createTable (table : Text) (schema : Schema) (keyColumns : List Text) :
    Except Unsupported Text :=
  (columnDefinitions keyColumns schema.fields).map fun columns =>
    "CREATE TABLE " ++ table ++ " (" ++ Text.join ", " columns ++ ") PRIMARY KEY (" ++
      Text.join ", " keyColumns ++ ")"

/-- The type of byte strings. -/
def isBytes : Field → Bool
  | .scalar _ _ .bytes .. => true
  | _ => false

/-- The columns of bytes and of arrays of bytes. -/
def byteColumns (schema : Schema) : List Text :=
  (schema.fields.filter fun f => match f with
    | .array _ _ element _ => isBytes element
    | f => isBytes f).map Field.name

/-! ## 2. Operations -/

/-- A value of a byte column as it is sent; the kind of the value is returned when it is none. -/
def encoded : Value → Except Text Value
  | .null => .ok .null
  | .list xs => (encodedItems xs).map .list
  | .bytes bs => .ok (.bytes (Base64.encode bs))
  | .buffer bs => .ok (.bytes (Base64.encode bs))
  | .view bs => .ok (.bytes (Base64.encode bs))
  | v => .error v.kindName
where
  /-- Items as they are sent. -/
  encodedItems : List Value → Except Text (List Value)
    | [] => .ok []
    | x :: rest => do
      let y ← encoded x
      return y :: (← encodedItems rest)

/-- The values of columns as they are sent. -/
def encodedColumns (byteColumns : List Text) : Row → Except Text (List Value)
  | [] => .ok []
  | (name, v) :: rest => do
    let w ← if byteColumns.contains name then encoded v else .ok v
    return w :: (← encodedColumns byteColumns rest)

/-- The mutation of an operation. -/
def mutation (byteColumns : List Text) (o : Operation) : Except Text Mutation :=
  match o.verb with
  | .delete => .ok (.delete o.table [o.key])
  | verb =>
    (encodedColumns byteColumns o.columns).map fun values =>
      .write verb o.table (o.columns.map (·.1)) values

end Sluice.Cloud
