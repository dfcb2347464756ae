import Sluice.Arrow.Cast
import Sluice.Log
import Sluice.Sink
import Sluice.Value.Key

/-!
# Arrow tables

A table has columns with names, types and as many cells as it has rows. Before its rows are read as
records, the columns that a schema names are converted to the types of their fields where that can
be done (`align`); arrays, records and columns of single precision are left alone, and so is every
column with a cell that cannot be converted.
-/

namespace Sluice.Arrow

/-- A column. -/
structure Column where
  name : Text
  type : DataType
  cells : List Value
  deriving Repr, Inhabited

/-- A table and the number of its rows. -/
structure Table where
  columns : List Column
  height : Nat
  deriving Repr, Inhabited

namespace Column

/-- The column of values that are stored in its cells. -/
def ofValues (name : Text) (type : DataType) (values : List Value) : Column :=
  ⟨name, type, values.map type.store⟩

/-- The scalar that a field wants its column to be converted to. -/
def wanted? (f : Field) : Option Scalar :=
  match f with
  | .scalar _ _ .float .. => none
  | .scalar _ _ s .. => some s
  | _ => none

/-- The column in the type of a scalar's columns. -/
def castTo (target : Scalar) (c : Column) : Except CastFault Column :=
  if c.type.stores? = some target then .ok c
  else (convert target c.type c.cells).map fun cells => { c with type := target.toArrow, cells }

end Column

namespace Table

/-- The first column with a name. -/
def column? (t : Table) (name : Text) : Option Column := t.columns.find? fun c => c.name == name

/-- Puts a column in the place of the first one with its name. -/
def replace (new : Column) : List Column → List Column
  | [] => []
  | c :: rest => if c.name = new.name then new :: rest else c :: replace new rest

/-- The entry of the log about a column that is left as it is. -/
def keptEntry (c : Column) (fault : CastFault) : Log.Entry :=
  { level := .warning
    message := "Column '" ++ c.name ++ "' kept as " ++ c.type.text ++ ": " ++ fault.message }

/-- The table with the column of a field converted if it can be. -/
def alignField (t : Table) (f : Field) : Table × List Log.Entry :=
  match Column.wanted? f, t.column? f.name with
  | some target, some c =>
    match c.castTo target with
    | .ok new => ({ t with columns := replace new t.columns }, [])
    | .error fault => (t, [keptEntry c fault])
  | _, _ => (t, [])

/-- The table with the columns of fields converted, one after the other. -/
def alignFields : List Field → Table → Table × List Log.Entry
  | [], t => (t, [])
  | f :: rest, t =>
    let (t, entries) := t.alignField f
    let (t, others) := alignFields rest t
    (t, entries ++ others)

/-- The table with the columns of a schema converted. -/
def align (t : Table) (s : Schema) : Table × List Log.Entry := alignFields s.fields t

/-! ## Records -/

/-- The cells of a row, which are taken from the columns one by one. -/
def rows : Nat → List (List Value) → List (List Value)
  | 0, _ => []
  | n + 1, columns =>
    columns.map (fun cells => cells.head?.getD .null) :: rows n (columns.map List.tail)

/-- The record of a row; of columns with the same name the last one counts. -/
def record (columns : List Column) (cells : List Value) : Except Failure Value := do
  let members ← (columns.zip cells).mapM fun (c, v) => do
    return (Value.text c.name, ← c.type.present v)
  return .mapping (Value.mappingOf members)

/-- How many rows are shown at a time. -/
def batchSize : Nat := 10000

/-- The records of rows, which are shown so many at a time; a row that cannot be shown takes those
shown with it along. -/
def records (columns : List Column) (size : Nat) : Nat → List (List Value) → Source
  | 0, _ => ⟨[], none⟩
  | fuel + 1, rows =>
    if rows.isEmpty then ⟨[], none⟩
    else match (rows.take size).mapM (record columns) with
      | .error f => ⟨[], some f⟩
      | .ok shown =>
        let rest := records columns size fuel (rows.drop size)
        { rest with records := shown ++ rest.records }

/-- The rows of a table as records. -/
def toSource (t : Table) : Source :=
  let rows := rows t.height (t.columns.map (·.cells))
  records t.columns batchSize rows.length rows

end Table

end Sluice.Arrow
