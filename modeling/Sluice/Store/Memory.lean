import Sluice.Store
import Sluice.Value.Key
import Sluice.Value.Sorted

/-!
# A store in memory

Tables are lists of rows under their keys. A group of operations is applied to copies of the tables
that it names, which replace the tables only when every operation succeeded. Inserting a key that is
there and updating one that is not are refused, deleting one that is not there does nothing.

Rows are found by what their keys hold (`Value.sameKey`), never by the identity of a key. The two
come apart for undefined numbers and values of foreign kinds only: no row is found under such a key.
-/

namespace Sluice

/-- The rows of a table under their keys, in the order in which the keys first came. -/
abbrev Table := List (List Value × Row)

namespace Table

/-- The row under a key; under a key that does not equal itself there is none. -/
def get? (t : Table) (key : List Value) : Option Row :=
  (t.find? fun (k, _) => Value.sameKey k key).map (·.2)

/-- Sets the row under a key; a key that is there stays in its place. -/
def put (t : Table) (key : List Value) (row : Row) : Table :=
  match t with
  | [] => [(key, row)]
  | (k, r) :: rest =>
    if Value.sameKey k key then (k, row) :: rest else (k, r) :: Table.put rest key row

/-- Takes the row under a key away. -/
def erase (t : Table) (key : List Value) : Table := t.filter fun (k, _) => !Value.sameKey k key

/-- Why an operation cannot be applied to a table. -/
inductive Fault where
  | exists_ (key : List Value)
  | absent (key : List Value)
  | unusable (why : Value.Unusable)
  deriving Repr

/-- Applies one operation; its key is needed unless there is nothing to delete from. -/
def apply (t : Table) (o : Operation) : Except Fault Table :=
  if o.verb = .delete ∧ t.isEmpty then .ok t
  else match Value.unusableKey? o.key with
    | some why => .error (.unusable why)
    | none =>
      match o.verb, t.get? o.key with
      | .insert, some _ => .error (.exists_ o.key)
      | .insert, none => .ok (t.put o.key o.columns)
      | .update, some row => .ok (t.put o.key (row.update o.columns))
      | .update, none => .error (.absent o.key)
      | .insertOrUpdate, row? => .ok (t.put o.key ((row?.getD []).update o.columns))
      | .replace, _ => .ok (t.put o.key o.columns)
      | .delete, _ => .ok (t.erase o.key)

/-- The rows in the order of their keys. -/
def rows (t : Table) : Except Value.Unordered (List Row) :=
  (Sorted.sort (fun (a, _) (b, _) => Value.beforeKey a b) t).map fun sorted => sorted.map (·.2)

end Table

/-- A store in memory: its tables, and the number of groups submitted so far. -/
structure Memory where
  tables : List (Text × Table) := []
  submissions : Nat := 0
  deriving Repr, Inhabited

namespace Memory

/-- The table with a name. -/
def table? (tables : List (Text × Table)) (name : Text) : Option Table :=
  (tables.find? fun (n, _) => n == name).map (·.2)

/-- Replaces the table with a name, if there is one. -/
def setTable (tables : List (Text × Table)) (name : Text) (t : Table) : List (Text × Table) :=
  tables.map fun (n, old) => if n = name then (n, t) else (n, old)

/-- The failure of an operation on a table. -/
def faultFailure (table : Text) (index : Nat) : Table.Fault → Failure
  | .exists_ key => .keyRefused "Row already exists" table key index
  | .absent key => .keyRefused "Row not found" table key index
  | .unusable why => .outside "TypeError" why.message

/-- The failure of an operation on a table that is not there. -/
def noTableFailure (table : Text) (index : Nat) : Failure :=
  { kind := .storeRejected, message := "Table not found: " ++ table
    context := [("table", .text table)], operation? := some index }

/-- Applies operations in order to copies of tables, the first one having the given index. -/
def applyAll (tables : List (Text × Table)) : Nat → List Operation →
    Except Failure (List (Text × Table))
  | _, [] => .ok tables
  | i, o :: rest =>
    match table? tables o.table with
    | none => .error (noTableFailure o.table i)
    | some t =>
      match t.apply o with
      | .error fault => .error (faultFailure o.table i fault)
      | .ok t' => applyAll (setTable tables o.table t') (i + 1) rest

/-- The tables that operations name. -/
def named (tables : List (Text × Table)) (operations : List Operation) : List (Text × Table) :=
  tables.filter fun (n, _) => operations.any fun o => o.table == n

/-- Tables in which those of a second list replace the ones of the same name. -/
def merge (tables staged : List (Text × Table)) : List (Text × Table) :=
  tables.map fun (n, t) => (n, (table? staged n).getD t)

/-- Makes a table ready. -/
def prepare (m : Memory) (table : Text) : Memory :=
  match table? m.tables table with
  | some _ => m
  | none => { m with tables := m.tables ++ [(table, [])] }

/-- Applies a group of operations as a whole or not at all. -/
def submit (m : Memory) (operations : List Operation) : Except Failure Unit × Memory :=
  match applyAll (named m.tables operations) 0 operations with
  | .error f => (.error f, { m with submissions := m.submissions + 1 })
  | .ok staged =>
    (.ok (), { tables := merge m.tables staged, submissions := m.submissions + 1 })

/-- The rows of a table in the order of their keys. -/
def rows (m : Memory) (table : Text) : Except Failure (List Row) :=
  match table? m.tables table with
  | none =>
    .error { kind := .store, message := "Table not found: " ++ table
             context := [("table", .text table)] }
  | some t =>
    match t.rows with
    | .ok rows => .ok rows
    | .error why => .error (.outside "TypeError" why.message)

/-- The store in memory. -/
def store : Store Memory where
  prepare m table _ _ := { outcome := .ok (), state := m.prepare table }
  submit m operations _ :=
    let (outcome, m) := m.submit operations
    match outcome with
    | .error _ => { outcome, state := m }
    | .ok _ =>
      { outcome, state := m
        log := [⟨.debug, "Applied " ++ Text.ofNat operations.length ++ " operations", []⟩] }
  close m := m

end Memory

end Sluice
