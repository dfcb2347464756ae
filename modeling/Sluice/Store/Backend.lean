import Sluice.Cloud.Store
import Sluice.Sql.Store
import Sluice.Store.Memory
import Sluice.Store.Registry

/-!
# The stores to choose from

A table lies in memory, behind a database client, or in the cloud. The settings name one of these;
a cloud client may be missing, and then its store cannot be had.
-/

namespace Sluice

/-- A store of one of the known kinds. -/
inductive Backend (δ γ : Type) where
  | memory (m : Memory)
  | database (d : Sql.Database δ)
  | cloud (d : Cloud.Database γ)

/-- The clients at hand. -/
structure Clients (δ γ : Type) where
  database : δ
  cloud? : Option γ

namespace Backend

variable {δ γ : Type}

private def lift {α β : Type} (f : α → β) (r : Reply α) : Reply β :=
  { outcome := r.outcome, state := f r.state, seconds := r.seconds, log := r.log }

/-- Every kind of store behind one. -/
def store (db : Sql.Client δ) (cl : Cloud.Client γ) : Store (Backend δ γ) where
  prepare b table schema keys :=
    match b with
    | .memory m => lift .memory (Memory.store.prepare m table schema keys)
    | .database d => lift .database ((Sql.Database.store db).prepare d table schema keys)
    | .cloud d => lift .cloud ((Cloud.Database.store cl).prepare d table schema keys)
  submit b operations timeout? :=
    match b with
    | .memory m => lift .memory (Memory.store.submit m operations timeout?)
    | .database d => lift .database ((Sql.Database.store db).submit d operations timeout?)
    | .cloud d => lift .cloud ((Cloud.Database.store cl).submit d operations timeout?)
  close
    | .memory m => .memory (Memory.store.close m)
    | .database d => .database ((Sql.Database.store db).close d)
    | .cloud d => .cloud ((Cloud.Database.store cl).close d)

/-- The stores under the names that settings use. -/
def registry (clients : Clients δ γ) : Registry (StoreSettings → Except Failure (Backend δ γ)) :=
  [ ("memory", fun _ => .ok (.memory {})),
    ("duckdb", fun settings => .ok (.database (.ofSettings settings clients.database))),
    ("spanner", fun settings =>
      match clients.cloud? with
      | some client => .ok (.cloud (.ofSettings settings client))
      | none => .error Cloud.Database.notInstalled) ]

/-- The store that settings ask for. -/
def ofSettings (clients : Clients δ γ) (settings : StoreSettings) : Except Failure (Backend δ γ) :=
  ((registry clients).get settings.kind).bind fun make => make settings

end Backend

end Sluice
