import Sluice.Commit
import Sluice.Config.Reader
import Sluice.Exchange.Values
import Sluice.Folder
import Sluice.Sink
import Sluice.Store.Backend
import Sluice.Store.Scripted
import Sluice.Text.Utf8

/-!
# Requests in exchange

The JSON forms of what the library is asked with: operations, failures that are to happen, retry
policies, sources of records, settings of the log, and the scripts of stores and clients. A member
that is null counts as missing.
-/

namespace Sluice.Exchange

/-! ## 1. Members -/

/-- A member that is there and not null. -/
def find? (j : Json) (label : Text) : Option Json :=
  match j.member? label with
  | some .null => none
  | other => other

def find (j : Json) (label : Text) : Json := (find? j label).getD .null

def items : Json → List Json
  | .array xs => xs
  | _ => []

def members : Json → List (Text × Json)
  | .object ms => ms
  | _ => []

def itemsAt (j : Json) (label : Text) : List Json := items (find j label)

/-- The text of a value, empty for other kinds. -/
def text (j : Json) : Text :=
  match read j with
  | .text t => t
  | _ => []

def textAt (j : Json) (label : Text) : Text := text (find j label)

def textOr (j : Json) (label default_ : Text) : Text := ((find? j label).map text).getD default_

def texts (j : Json) (label : Text) : List Text := (itemsAt j label).map text

def int (j : Json) : Int := intOf (read j)

def intAt (j : Json) (label : Text) (default_ : Int) : Int :=
  ((find? j label).map int).getD default_

def bool : Json → Bool
  | .bool b => b
  | _ => false

def boolAt (j : Json) (label : Text) : Bool := bool (find j label)

/-- A number as a double. -/
def float (j : Json) : Binary64 :=
  match read j with
  | .float x => x
  | v => .ofInt (intOf v)

def floatAt (j : Json) (label : Text) (default_ : Binary64) : Binary64 :=
  ((find? j label).map float).getD default_

/-- Named values given as pairs; the last value of a name counts. -/
def row (j : Json) : Row :=
  (items j).foldl (fun r p => match p with
    | .array [k, v] => r.put (text k) (read v)
    | _ => r) []

/-- Named values given as an object. -/
def namedValues (j : Json) : List (Text × Value) := (members j).map fun (k, v) => (k, read v)

/-! ## 2. Failures and operations -/

/-- A failure that is described by its kind, its message and what belongs to the kind. -/
def failureIn (j : Json) : Failure :=
  let message := textAt j "message"
  match Kind.ofLabel (textAt j "kind") with
  | .outside label =>
    .outside label (if label = Text.ofString "KeyError" then message.quoted else message)
  | kind =>
    let f : Failure :=
      { kind, message, context := row (find j "context")
        operation? := if kind = .commitRejected ∨ kind = .storeRejected then
            (find? j "index").map fun n => (int n).toNat
          else none
        attempts? := if kind = .commitExhausted then some (intAt j "attempts" 0).toNat else none }
    match kind.isRecord, find? j "field" with
    | true, some place => f.placed (text place)
    | _, _ => f

/-- A failure, or none for null. -/
def failureIn? : Json → Option Failure
  | .null => none
  | j => some (failureIn j)

def failureAt? (j : Json) (label : Text) : Option Failure := (find? j label).map failureIn

def operationIn (j : Json) : Except Failure Operation :=
  (Verb.ofWord (textOr j "kind" "insert")).map fun verb =>
    ⟨textAt j "table", verb, row (find j "columns"), texts j "keys"⟩

def operationsIn (j : Json) : Except Failure (List Operation) := (items j).mapM operationIn

/-! ## 3. Policies, sources and logs -/

def policyIn (j : Json) : Except Failure RetryPolicy :=
  match RetryPolicy.make (intAt j "max_retries" 3) (floatAt j "retry_delay" (.ofInt 1))
      (floatAt j "backoff_rate" (.ofInt 2)) (floatAt j "max_delay" (.ofInt 30))
      ((find? j "commit_timeout").map float) with
  | .ok p => .ok p
  | .error fault => .error (.outside "ValueError" fault.message)

/-- Records and the failure behind them; a failure that is due later than the last record never
comes. -/
def sourceIn (j : Json) : Source :=
  let records := (itemsAt j "records").map read
  match find? j "source_error" with
  | none => ⟨records, none⟩
  | some spec =>
    let after := (intAt spec "after" 0).toNat
    if after ≤ records.length then ⟨records.take after, some (failureIn spec)⟩ else ⟨records, none⟩

/-- The settings of the log, if one is asked for by a level. -/
def logSettings? (j : Json) (sink? : Option Text) : Option Log.Settings :=
  (find? j "log_level").bind fun level =>
    (Log.Level.lowest? (text level)).map fun lowest => ⟨lowest, boolAt j "json_logs", sink?⟩

/-- The entries that are emitted to the log. -/
def entriesIn (j : Json) : List Log.Entry :=
  (items j).filterMap fun e => match items e with
    | [logger, level, message, extra] =>
      if Log.isOurs (text logger) then
        some ⟨(Log.Level.ofName? (text level)).getD .info, text message, namedValues extra⟩
      else none
    | _ => none

/-! ## 4. Files and variables -/

/-- The bytes of a file, which is given as a text or by its bytes. -/
def contentIn (j : Json) : List UInt8 :=
  match find? j "hex" with
  | some digits => readBytes (charsOf (read digits))
  | none => Text.Utf8.encode (((text j).chars?).getD [])

def folderIn (j : Json) : Folder :=
  ⟨(members (find j "files")).map fun (path, content) => (path, contentIn content)⟩

/-- Texts under names. -/
def variablesIn (j : Json) : List (Text × Text) := (members j).map fun (k, v) => (k, text v)

/-! ## 5. Scripts -/

def scriptedIn (j : Json) : Scripted :=
  { failures := (itemsAt j "failures").map failureIn?
    byKey := (itemsAt j "by_key").map fun e =>
      (read (find e "key"), (itemsAt e "failures").map failureIn?)
    seconds := floatAt j "submit_seconds" .zero
    prepareFailure? := failureAt? j "prepare_error" }

private def answerOf (call? : Option Json) : Except Failure (Option (List Value)) :=
  match call? with
  | none => .ok (some [.int 1])
  | some call =>
    match failureAt? call "raise", call.member? "row" with
    | some f, _ => .error f
    | none, none => .ok (some [.int 1])
    | none, some .null => .ok none
    | none, some r => .ok (some ((items r).map read))

def sqlScriptIn (j : Json) : Sql.Script :=
  let calls := members (find j "calls")
  { answer := fun n => answerOf ((calls.find? fun (k, _) => k == Text.ofNat n).map (·.2))
    connectFailure? := failureAt? j "connect_error" }

def cloudScriptIn (j : Json) : Cloud.Script :=
  { known := match find? j "available" with
      | some labels => (items labels).map text
      | none => Cloud.serviceLabels
    tables := texts j "tables"
    failures := (itemsAt j "errors").map failureIn?
    connectFailure? := failureAt? j "connect_error"
    lookupFailure? := failureAt? j "exists_error"
    defineFailure? := failureAt? j "ddl_error" }

def clientsIn (j : Json) : Clients Sql.Script Cloud.Script :=
  { database := sqlScriptIn (find j "duckdb"), cloud? := (find? j "spanner").map cloudScriptIn }

/-- Settings of a store over defaults. -/
def settingsIn (defaults : List (Text × Value)) (j : Json) : Checked StoreSettings :=
  StoreSettings.read (.ofPairs (Row.update defaults (namedValues j)))

end Sluice.Exchange
