import Sluice.Failure
import Sluice.Value.Key
import Sluice.Value.Size

/-!
# Write operations

An operation writes one row of one table. Its columns hold converted values in order; the values of
the key columns are its key. The estimated size counts the table's name, the names of the columns
and the values.
-/

namespace Sluice

/-- The kinds of write operations. -/
inductive Verb where
  | insert
  | update
  | delete
  | insertOrUpdate
  | replace
  deriving DecidableEq, Repr, Inhabited

namespace Verb

/-- The word for a kind of operation. -/
def word : Verb → Text
  | .insert => "insert"
  | .update => "update"
  | .delete => "delete"
  | .insertOrUpdate => "insert_or_update"
  | .replace => "replace"

/-- Every kind of operation. -/
def all : List Verb := [.insert, .update, .delete, .insertOrUpdate, .replace]

/-- The kind of operation that a word stands for. -/
def ofWord? (word : Text) : Option Verb := all.find? fun v => v.word == word

/-- The kind of operation that a word stands for, or the failure of a word that stands for none. -/
def ofWord (word : Text) : Except Failure Verb :=
  match ofWord? word with
  | some v => .ok v
  | none => .error (.outside "ValueError" (word.quoted ++ " is not a valid OperationKind"))

end Verb

/-- A row of named values. -/
abbrev Row := List (Text × Value)

namespace Row

/-- The value of a column. -/
def get? (row : Row) (name : Text) : Option Value := (row.find? fun (n, _) => n == name).map (·.2)

/-- Sets a column; a column that is there keeps its position. -/
def put (row : Row) (name : Text) (v : Value) : Row :=
  match row with
  | [] => [(name, v)]
  | (n, w) :: rest => if n = name then (n, v) :: rest else (n, w) :: Row.put rest name v

/-- Sets every column of a second row. -/
def update (row changes : Row) : Row := changes.foldl (fun r (n, v) => r.put n v) row

/-- The value of a column, null when there is none. -/
def value (row : Row) (name : Text) : Value := (row.get? name).getD .null

end Row

/-- One write to one row of a table. -/
structure Operation where
  table : Text
  verb : Verb
  columns : Row
  keyColumns : List Text
  deriving Repr, Inhabited

namespace Operation

/-- The values of the key columns. -/
def key (o : Operation) : List Value := o.keyColumns.map o.columns.value

/-- The estimated size of columns together, in bytes. -/
def columnsSize : Row → Nat
  | [] => 0
  | (name, v) :: rest => name.utf8Size + v.size + columnsSize rest

/-- The estimated size in bytes. -/
def size (o : Operation) : Nat := o.table.utf8Size + columnsSize o.columns

/-- Whether two operations write the same; the columns may come in another order. -/
def same (a b : Operation) : Bool :=
  a.table == b.table && a.verb == b.verb && a.keyColumns == b.keyColumns &&
    (Value.ofPairs a.columns).same (Value.ofPairs b.columns)

/-- The columns of an operation cannot be changed. -/
def assign (_ : Operation) (_column : Text) : Except Failure Operation :=
  .error (.outside "TypeError" "'mappingproxy' object does not support item assignment")

end Operation

end Sluice
