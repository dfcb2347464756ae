import Sluice.Operation
import Sluice.Schema

/-!
# SQL statements

The statements that define a table and write its rows. Every identifier stands between double
quotes, a quote inside it being doubled, and every value is a parameter, marked by a question mark
in the text. The statement of an operation lists all columns and their values to insert a row, the
other columns and then the key columns to change one, and the key columns to delete one.
-/

namespace Sluice.Sql

/-- A statement and the values for its question marks, if it takes any. -/
structure Statement where
  text : Text
  parameters? : Option (List Value) := none
  deriving Repr, Inhabited

/-- An identifier between double quotes. -/
def quote (name : Text) : Text :=
  .char '"' :: name.flatMap (fun s =>
    if s = .char '"' then [.char '"', .char '"'] else [s]) ++ [.char '"']

/-! ## 1. Tables -/

/-- The column type of a scalar. -/
def scalarType : Scalar → Text
  | .bool => "BOOLEAN"
  | .int32 => "INTEGER"
  | .int64 => "BIGINT"
  | .float => "FLOAT"
  | .double => "DOUBLE"
  | .numeric => "DECIMAL(38, 9)"
  | .string => "VARCHAR"
  | .bytes => "BLOB"
  | .timestamp => "TIMESTAMP"
  | .date => "DATE"

/-- The column type of a field. -/
def columnType : Field → Text
  | .scalar _ _ type .. => scalarType type
  | .array _ _ element _ => columnType element ++ "[]"
  | .record _ _ members _ => "STRUCT(" ++ memberTypes members ++ ")"
where
  /-- The types of members with their names. -/
  memberTypes : List Field → Text
    | [] => []
    | [f] => memberType f
    | f :: rest => memberType f ++ ", " ++ memberTypes rest
  /-- The type of a member with its name. -/
  memberType (f : Field) : Text := .char '"' :: f.name ++ "\" " ++ columnType f

/-- The definition of a column; key columns take no null. -/
def columnDefinition (keyColumns : List Text) (f : Field) : Text :=
  quote f.name ++ .char ' ' :: columnType f ++
    (if f.nullable && !keyColumns.contains f.name then [] else " NOT NULL")

/-- The statement that defines a table unless it is there. -/
def createTable (table : Text) (schema : Schema) (keyColumns : List Text) : Statement :=
  let columns := schema.fields.map (columnDefinition keyColumns)
  let key := "PRIMARY KEY (" ++ Text.join ", " (keyColumns.map quote) ++ ")"
  { text := "CREATE TABLE IF NOT EXISTS " ++ quote table ++ " (" ++
      Text.join ", " (columns ++ [key]) ++ ")" }

/-! ## 2. Values -/

/-- The value that is bound for a value: times with an offset as the wall-clock time of UTC; `none`
when such a time lies outside the calendar. -/
def bound? : Value → Option Value
  | .dateTime t =>
    if t.offset.isSome then t.toUtc?.map fun utc => .dateTime utc.withoutOffset
    else some (.dateTime t)
  | .list xs => (boundItems? xs).map .list
  | .mapping es => (boundEntries? es).map .mapping
  | v => some v
where
  /-- The values that are bound for items. -/
  boundItems? : List Value → Option (List Value)
    | [] => some []
    | x :: rest =>
      match bound? x, boundItems? rest with
      | some y, some ys => some (y :: ys)
      | _, _ => none
  /-- The values that are bound for entries. -/
  boundEntries? : List (Value × Value) → Option (List (Value × Value))
    | [] => some []
    | (k, v) :: rest =>
      match bound? v, boundEntries? rest with
      | some w, some ws => some ((k, w) :: ws)
      | _, _ => none

/-! ## 3. Operations -/

/-- Why an operation has no statement. -/
inductive Fault where
  | outsideCalendar
  | noColumn (name : Text)
  deriving DecidableEq, Repr

/-- Names with an equals sign and a question mark. -/
def assignments (names : List Text) : List Text := names.map fun n => quote n ++ " = ?"

/-- An operation with the parts that its statement is made of. -/
structure Parts where
  table : Text
  names : List Text
  keys : List Text
  values : List Value
  otherValues : List Value
  keyValues : List Value

namespace Parts

/-- The columns that are not key columns. -/
def others (p : Parts) : List Text := p.names.filter fun n => !p.keys.contains n

def columnList (p : Parts) : Text := Text.join ", " (p.names.map quote)

def marks (p : Parts) : Text := Text.join ", " (p.names.map fun _ => Text.ofString "?")

def keyCondition (p : Parts) : Text := Text.join " AND " (assignments p.keys)

/-- `INTO` and what is inserted. -/
def inserted (p : Parts) : Text :=
  "INTO " ++ quote p.table ++ " (" ++ p.columnList ++ ") VALUES (" ++ p.marks ++ ")"

/-- What happens when the row is there already. -/
def onConflict (p : Parts) : Text :=
  "ON CONFLICT (" ++ Text.join ", " (p.keys.map quote) ++ ") DO " ++
    (if p.others.isEmpty then Text.ofString "NOTHING"
    else "UPDATE SET " ++
      Text.join ", " (p.others.map fun n => quote n ++ " = EXCLUDED." ++ quote n))

/-- The statement of an operation of the given kind. -/
def statement (p : Parts) : Verb → Statement
  | .insert => ⟨"INSERT " ++ p.inserted, some p.values⟩
  | .replace => ⟨"INSERT OR REPLACE " ++ p.inserted, some p.values⟩
  | .insertOrUpdate => ⟨"INSERT " ++ p.inserted ++ .char ' ' :: p.onConflict, some p.values⟩
  | .update =>
    if p.others.isEmpty then
      ⟨"SELECT COUNT(*) FROM " ++ quote p.table ++ " WHERE " ++ p.keyCondition, some p.keyValues⟩
    else
      ⟨"UPDATE " ++ quote p.table ++ " SET " ++ Text.join ", " (assignments p.others) ++
        " WHERE " ++ p.keyCondition, some (p.otherValues ++ p.keyValues)⟩
  | .delete => ⟨"DELETE FROM " ++ quote p.table ++ " WHERE " ++ p.keyCondition, some p.keyValues⟩

end Parts

/-- The values bound for columns. -/
def boundColumns (row : Row) (names : List Text) : Except Fault (List Value) :=
  names.mapM fun n =>
    match row.get? n with
    | none => .error (.noColumn n)
    | some v =>
      match bound? v with
      | some w => .ok w
      | none => .error .outsideCalendar

/-- The parts of an operation; `tableKeys` are the key columns if it names none itself. -/
def parts (o : Operation) (tableKeys : List Text) : Except Fault Parts := do
  let names := o.columns.map (·.1)
  let keys := if o.keyColumns.isEmpty then tableKeys else o.keyColumns
  let values ← boundColumns o.columns names
  let keyValues ← boundColumns o.columns keys
  let otherValues ← boundColumns o.columns (names.filter fun n => !keys.contains n)
  return ⟨o.table, names, keys, values, otherValues, keyValues⟩

/-- The statement of an operation. -/
def statement (o : Operation) (tableKeys : List Text) : Except Fault Statement :=
  (parts o tableKeys).map fun p => p.statement o.verb

end Sluice.Sql
