import Sluice.Cloud.Mutation
import Sluice.Failure

/-!
# Cloud clients

A client opens a handle on a database, says whether a table is there, defines tables, and runs
transactions: it has the mutations of one handed over, as often as it likes, and applies them at the
end. It knows some kinds of failures by name, and of which kinds each failure is one.
`Script.client` is a client that answers as it is told and keeps a record of all calls.
-/

namespace Sluice.Cloud

/-- Which database is meant. -/
structure Address where
  project? : Option Text
  instance? : Option Text
  database? : Option Text
  deriving DecidableEq, Repr

/-- A client with states of type `δ`. The lineage of a kind of failures is the kind itself and every
more general one; a transaction is given what hands its mutations over. -/
structure Client (δ : Type) where
  knownFailures : δ → List Text
  lineage : δ → Text → List Text
  connect : δ → Address → Except Failure Unit × δ
  hasTable : δ → Text → Except Failure Bool × δ
  define : δ → Text → Except Failure Unit × δ
  transact : δ → Option Binary64 → (δ → Except Failure Unit × δ) → Except Failure Unit × δ
  buffer : δ → Mutation → δ
  close : δ → δ

/-- The kind of all failures that the service reports. -/
def serviceLabel : Text := "GoogleAPICallError"

/-- Whether a failure is of a kind. -/
def Client.isOneOf {δ : Type} (c : Client δ) (s : δ) (f : Failure) (name : Text) : Bool :=
  match f.kind with
  | .outside label => (c.lineage s label).contains name
  | _ => false

/-- A call to a client. -/
inductive Call where
  | client (project? : Option Text)
  | instance_ (name? : Option Text)
  | database (name? : Option Text)
  | hasTable (table : Text)
  | define (statement : Text)
  | transaction (timeout? : Option Binary64)
  | buffer (m : Mutation)
  | close
  deriving Repr

/-- The names of the failures that the service of a scripted client reports. -/
def serviceLabels : List Text :=
  [ serviceLabel, "Aborted", "ServiceUnavailable", "DeadlineExceeded", "ResourceExhausted",
    "InternalServerError", "AlreadyExists", "NotFound", "InvalidArgument", "PermissionDenied" ]

/-- What a scripted client answers, and its calls. -/
structure Script where
  known : List Text
  tables : List Text := []
  failures : List (Option Failure) := []
  connectFailure? : Option Failure := none
  lookupFailure? : Option Failure := none
  defineFailure? : Option Failure := none
  calls : List Call := []

namespace Script

private def note (s : Script) (c : Call) : Script := { s with calls := s.calls ++ [c] }

private def outcome (f? : Option Failure) : Except Failure Unit :=
  match f? with
  | some f => .error f
  | none => .ok ()

/-- The client that follows its script. A transaction fails before anything has been handed over,
or has it handed over once. -/
def client : Client Script where
  knownFailures s := s.known
  lineage _ label := if serviceLabels.contains label then [label, serviceLabel] else [label]
  connect s address :=
    let s := s.note (.client address.project?)
    match s.connectFailure? with
    | some f => (.error f, s)
    | none => (.ok (), (s.note (.instance_ address.instance?)).note (.database address.database?))
  hasTable s table :=
    (match s.lookupFailure? with
      | some f => .error f
      | none => .ok (s.tables.contains table), s.note (.hasTable table))
  define s statement := (outcome s.defineFailure?, s.note (.define statement))
  transact s timeout? handOver :=
    let begun := { s.note (.transaction timeout?) with failures := s.failures.tail }
    match s.failures.head?.join with
    | some f => (.error f, begun)
    | none => handOver begun
  buffer s m := s.note (.buffer m)
  close s := s.note .close

end Script

end Sluice.Cloud
