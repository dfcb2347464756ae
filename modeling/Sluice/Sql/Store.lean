import Sluice.Config
import Sluice.Number.Shortest
import Sluice.Sql.Client
import Sluice.Store

/-!
# A store behind a database client

A group of operations is one transaction: `BEGIN TRANSACTION`, a statement for each operation, and
`COMMIT`; the first failure is followed by `ROLLBACK`. Failures of the database are told apart by
their names: an interrupted transaction has taken too long, conflicts and input or output trouble
may pass, anything else is refused, with the index of the operation whose statement failed.
-/

namespace Sluice.Sql

/-- How a failure of the database is to be understood; other failures are not the database's. -/
inductive Trouble where
  | interrupted
  | passing
  | refused
  | foreign
  deriving DecidableEq, Repr

/-- The names of the database's failures that may pass: conflicts and trouble with input or output,
of which trouble with remote files is a kind. -/
def passingLabels : List Text := ["TransactionException", "IOException", "HTTPException"]

/-- The names of the database's failures that are neither an interruption nor expected to pass. -/
def refusedLabels : List Text :=
  [ "Error", "DatabaseError", "DataError", "OperationalError", "IntegrityError", "InternalError",
    "ProgrammingError", "NotSupportedError", "BinderException", "CatalogException",
    "ConnectionException", "ConstraintException", "ConversionException", "DependencyException",
    "FatalException", "InternalException", "InvalidInputException", "InvalidTypeException",
    "NotImplementedException", "OutOfMemoryException", "OutOfRangeException", "ParserException",
    "PermissionException", "SequenceException", "SerializationException", "SyntaxException",
    "TypeMismatchException" ]

/-- How a failure is to be understood. -/
def trouble (f : Failure) : Trouble :=
  match f.kind with
  | .outside label =>
    if label = Text.ofString "InterruptException" then .interrupted
    else if passingLabels.contains label then .passing
    else if refusedLabels.contains label then .refused
    else .foreign
  | _ => .foreign

/-- A database in use: its settings, the key columns of the tables that were prepared, whether the
connection is open, and the client. -/
structure Database (δ : Type) where
  path : Text
  createTables : Bool
  keyColumns : List (Text × List Text) := []
  isOpen : Bool := false
  client : δ

namespace Database

variable {δ : Type}

/-- A database that has not been opened; without a path it lies in memory. -/
def ofSettings (settings : StoreSettings) (client : δ) : Database δ :=
  let given := settings.database?.getD []
  { path := if given.isEmpty then ":memory:" else given
    createTables := settings.createTable, client }

/-- The key columns of a table. -/
def keysOf (d : Database δ) (table : Text) : List Text :=
  ((d.keyColumns.find? fun (n, _) => n == table).map (·.2)).getD []

/-- Notes the key columns of a table. -/
def noteKeys (d : Database δ) (table : Text) (keys : List Text) : Database δ :=
  { d with keyColumns := (table, keys) :: d.keyColumns.filter fun (n, _) => n != table }

/-- Opens the connection unless it is open. -/
def openUp (c : Client δ) (d : Database δ) : Except Failure Unit × Database δ :=
  if d.isOpen then (.ok (), d)
  else
    let (outcome, client) := c.connect d.client d.path
    match outcome with
    | .ok _ => (.ok (), { d with client, isOpen := true })
    | .error f =>
      match trouble f with
      | .foreign => (.error f, { d with client })
      | _ =>
        (.error { kind := .store, message := "Failed to connect to DuckDB: " ++ f.text
                  context := [("database", .text d.path)] }, { d with client })

/-- Executes a statement. -/
def execute (c : Client δ) (d : Database δ) (s : Statement) :
    Except Failure (Option (List Value)) × Database δ :=
  let (outcome, client) := c.execute d.client s
  (outcome, { d with client })

/-- Makes a table ready, creating it if that is wanted. -/
def prepare (c : Client δ) (d : Database δ) (table : Text) (schema : Schema) (keys : List Text) :
    Except Failure Unit × Database δ :=
  let d := d.noteKeys table keys
  if !d.createTables then (.ok (), d)
  else match d.openUp c with
    | (.error f, d) => (.error f, d)
    | (.ok _, d) =>
      match d.execute c (createTable table schema keys) with
      | (.ok _, d) => (.ok (), d)
      | (.error f, d) =>
        match trouble f with
        | .foreign => (.error f, d)
        | _ =>
          (.error
            { kind := .store, message := "Failed to create table: " ++ f.text
              context := [("table", .text table), ("columns", .list (schema.names.map .text))] },
            d)

/-- Whether a row shows that nothing was changed. -/
def showsNothing : Option (List Value) → Bool
  | none => true
  | some [] => true
  | some (count :: _) => count.same (.int 0)

/-- The failure of an operation that has no statement. -/
def faultFailure : Fault → Failure
  | .outsideCalendar => .outside "OverflowError" "date value out of range"
  | .noColumn name => .outside "KeyError" name.quoted

/-- Applies one operation. -/
def apply (c : Client δ) (d : Database δ) (o : Operation) (index : Nat) :
    Except Failure Unit × Database δ :=
  match statement o (d.keysOf o.table) with
  | .error fault => (.error (faultFailure fault), d)
  | .ok s =>
    match d.execute c s with
    | (.error f, d) => (.error f, d)
    | (.ok row?, d) =>
      if o.verb = .update ∧ showsNothing row? then
        (.error (.keyRefused "Row not found" o.table o.key index), d)
      else (.ok (), d)

/-- Applies operations in order, the first one having the given index, up to the first failure,
which is returned with the index of its operation. -/
def applyAll (c : Client δ) : Nat → List Operation → Database δ →
    Option (Failure × Nat) × Database δ
  | _, [], d => (none, d)
  | i, o :: rest, d =>
    match d.apply c o i with
    | (.ok _, d) => applyAll c (i + 1) rest d
    | (.error f, d) => (some (f, i), d)

/-- A transaction that did not end well: the failure, and the operation at which it arose. -/
abbrev Broken := Failure × Option Nat

/-- Takes a transaction back. A failure of the database on the way is logged only; another failure
takes the place of the one that broke the transaction. -/
def rollBack (c : Client δ) (d : Database δ) (broken : Broken) :
    Broken × Database δ × List Log.Entry :=
  match d.execute c { text := "ROLLBACK" } with
  | (.ok _, d) => (broken, d, [])
  | (.error f, d) =>
    match trouble f with
    | .foreign => ((f, broken.2), d, [])
    | _ => (broken, d, [⟨.warning, "Rollback failed: " ++ f.text, []⟩])

/-- Runs operations as one transaction. -/
def transaction (c : Client δ) (d : Database δ) (operations : List Operation) :
    Option Broken × Database δ × List Log.Entry :=
  match d.execute c { text := "BEGIN TRANSACTION" } with
  | (.error f, d) => (some (f, none), d, [])
  | (.ok _, d) =>
    match applyAll c 0 operations d with
    | (some (f, i), d) =>
      let (broken, d, log) := d.rollBack c (f, some i)
      (some broken, d, log)
    | (none, d) =>
      match d.execute c { text := "COMMIT" } with
      | (.ok _, d) => (none, d, [])
      | (.error f, d) =>
        let (broken, d, log) := d.rollBack c (f, none)
        (some broken, d, log)

/-- The failure that a broken transaction reports. -/
def report (d : Database δ) (timeout? : Option Binary64) (broken : Broken) : Failure :=
  let (f, operation?) := broken
  match trouble f with
  | .interrupted =>
    let limit : Text := match timeout? with
      | some t => Number.shownFloat.write t
      | none => "None"
    .outside "TimeoutError" ("DuckDB transaction exceeded " ++ limit ++ "s")
  | .passing =>
    { kind := .storeTransient, message := "DuckDB transaction failed: " ++ f.text
      context := [("database", .text d.path)] }
  | .refused =>
    { kind := .storeRejected, message := "DuckDB rejected operation: " ++ f.text
      context := [("database", .text d.path)], operation? }
  | .foreign => f

/-- The time that a transaction is watched for; a limit of zero is none. -/
def watched? (timeout? : Option Binary64) : Option Binary64 :=
  timeout?.filter fun t => !t.isZero

/-- Applies a group of operations as one transaction, under a timer if there is a limit. -/
def submit (c : Client δ) (d : Database δ) (operations : List Operation)
    (timeout? : Option Binary64) : Reply (Database δ) :=
  match d.openUp c with
  | (.error f, d) => { outcome := .error f, state := d }
  | (.ok _, d) =>
    let d := match watched? timeout? with
      | some t => { d with client := c.startTimer d.client t }
      | none => d
    let (broken?, d, log) := d.transaction c operations
    let d := match watched? timeout? with
      | some _ => { d with client := c.stopTimer d.client }
      | none => d
    { outcome := match broken? with
        | none => .ok ()
        | some broken => .error (d.report timeout? broken)
      state := d, log }

/-- Closes the connection if it is open. -/
def close (c : Client δ) (d : Database δ) : Database δ :=
  if d.isOpen then { d with client := c.close d.client, isOpen := false } else d

/-- The store behind a client. -/
def store (c : Client δ) : Store (Database δ) where
  prepare d table schema keys :=
    let (outcome, d) := d.prepare c table schema keys
    { outcome, state := d }
  submit d operations timeout? := d.submit c operations timeout?
  close d := d.close c

end Database

end Sluice.Sql
