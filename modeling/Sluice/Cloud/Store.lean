import Sluice.Cloud.Client
import Sluice.Config
import Sluice.Store

/-!
# A store in the cloud

A group of operations is one transaction of a cloud client: a mutation for each operation, in order,
applied together. Failures of the service that are of one of five kinds may pass, its other failures
are refusals of the whole group; what is not the service's passes through as it is.
-/

namespace Sluice.Cloud

/-- The kinds of the failures that may pass. -/
def passingLabels : List Text :=
  ["Aborted", "ServiceUnavailable", "DeadlineExceeded", "ResourceExhausted", "InternalServerError"]

namespace Client

variable {δ : Type}

/-- Whether a failure is reported by the service. -/
def isService (c : Client δ) (s : δ) (f : Failure) : Bool := c.isOneOf s f serviceLabel

/-- Whether a failure may pass: whether it is of one of these kinds, as far as they are known. -/
def mayPass (c : Client δ) (s : δ) (f : Failure) : Bool :=
  passingLabels.any fun name => (c.knownFailures s).contains name && c.isOneOf s f name

end Client

/-- A cloud database in use: its address, the byte columns of the tables that were prepared, whether
the handle is open, and the client. -/
structure Database (δ : Type) where
  address : Address
  createTables : Bool
  byteColumns : List (Text × List Text) := []
  isOpen : Bool := false
  client : δ

namespace Database

variable {δ : Type}

/-- A database that has not been opened. -/
def ofSettings (settings : StoreSettings) (client : δ) : Database δ :=
  { address := ⟨settings.project?, settings.instance?, settings.database?⟩
    createTables := settings.createTable, client }

/-- The failure of a client that is not installed. -/
def notInstalled : Failure :=
  .outside "ImportError"
    ("SpannerStore requires google-cloud-spanner. " ++
      "Install it with: pip install spannerload[spanner]")

private def named (name : Text) (v? : Option Text) : Text × Value :=
  (name, match v? with
    | some t => .text t
    | none => .null)

/-- The byte columns of a table. -/
def bytesOf (d : Database δ) (table : Text) : List Text :=
  ((d.byteColumns.find? fun (n, _) => n == table).map (·.2)).getD []

/-- Notes the byte columns of a table. -/
def noteBytes (d : Database δ) (table : Text) (columns : List Text) : Database δ :=
  { d with byteColumns := (table, columns) :: d.byteColumns.filter fun (n, _) => n != table }

/-- Opens the handle unless it is open. -/
def openUp (c : Client δ) (d : Database δ) : Except Failure Unit × Database δ :=
  if d.isOpen then (.ok (), d)
  else
    let (outcome, client) := c.connect d.client d.address
    match outcome with
    | .ok _ => (.ok (), { d with client, isOpen := true })
    | .error f =>
      (.error
        (if c.isService client f then
          { kind := .store, message := "Failed to connect to Spanner: " ++ f.text
            context :=
              [named "instance" d.address.instance?, named "database" d.address.database?] }
        else f), { d with client })

/-- The failure of a table that could not be created. -/
def createFailure (c : Client δ) (s : δ) (table statement : Text) (f : Failure) : Failure :=
  if c.isService s f then
    { kind := .store, message := "Failed to create table: " ++ f.text
      context := [("table", .text table), ("ddl", .text statement)] }
  else f

/-- Creates a table unless it is there. -/
def create (c : Client δ) (d : Database δ) (table statement : Text) : Reply (Database δ) :=
  let (found, client) := c.hasTable d.client table
  match found with
  | .error f =>
    { outcome := .error (createFailure c client table statement f), state := { d with client } }
  | .ok true => { outcome := .ok (), state := { d with client } }
  | .ok false =>
    let (outcome, client) := c.define client statement
    { outcome := match outcome with
        | .ok _ => .ok ()
        | .error f => .error (createFailure c client table statement f)
      state := { d with client }
      log := [⟨.info, "Creating Spanner table " ++ table, [("table", .text table)]⟩] }

/-- Makes a table ready, creating it if that is wanted. -/
def prepare (c : Client δ) (d : Database δ) (table : Text) (schema : Schema) (keys : List Text) :
    Reply (Database δ) :=
  let d := d.noteBytes table (Cloud.byteColumns schema)
  match createTable table schema keys with
  | .error u =>
    { outcome := .error
        { kind := .store, message := u.message, context := [("table", .text table)] }
      state := d }
  | .ok statement =>
    if !d.createTables then { outcome := .ok (), state := d }
    else match d.openUp c with
      | (.error f, d) => { outcome := .error f, state := d }
      | (.ok _, d) => d.create c table statement

/-- Hands the mutations of operations to the client, in order, up to the first value that is not
made of bytes in a byte column. -/
def bufferAll (c : Client δ) : List Operation → Database δ → Except Failure Unit × Database δ
  | [], d => (.ok (), d)
  | o :: rest, d =>
    match mutation (d.bytesOf o.table) o with
    | .error kind =>
      (.error (.outside "TypeError"
        ("a bytes-like object is required, not '" ++ kind ++ "'")), d)
    | .ok m => bufferAll c rest { d with client := c.buffer d.client m }

/-- What a transaction of operations has the client do to a state of it. -/
def handOver (c : Client δ) (d : Database δ) (operations : List Operation) (s : δ) :
    Except Failure Unit × δ :=
  let (outcome, d) := bufferAll c operations { d with client := s }
  (outcome, d.client)

/-- The failure that a broken transaction reports. -/
def report (c : Client δ) (d : Database δ) (f : Failure) : Failure :=
  if !c.isService d.client f then f
  else if c.mayPass d.client f then
    { kind := .storeTransient, message := "Spanner commit failed: " ++ f.text
      context := [named "database" d.address.database?] }
  else
    { kind := .storeRejected, message := "Spanner rejected commit: " ++ f.text
      context := [named "database" d.address.database?] }

/-- Applies a group of operations as one transaction. -/
def submit (c : Client δ) (d : Database δ) (operations : List Operation)
    (timeout? : Option Binary64) : Except Failure Unit × Database δ :=
  match d.openUp c with
  | (.error f, d) => (.error f, d)
  | (.ok _, d) =>
    let (outcome, client) := c.transact d.client timeout? (d.handOver c operations)
    let d := { d with client }
    match outcome with
    | .error f => (.error (d.report c f), d)
    | .ok _ => (.ok (), d)

/-- Closes the handle if it is open. -/
def close (c : Client δ) (d : Database δ) : Database δ :=
  if d.isOpen then { d with client := c.close d.client, isOpen := false } else d

/-- The store behind a client. -/
def store (c : Client δ) : Store (Database δ) where
  prepare d table schema keys := d.prepare c table schema keys
  submit d operations timeout? :=
    let (outcome, d) := d.submit c operations timeout?
    { outcome, state := d }
  close d := d.close c

end Database

end Sluice.Cloud
