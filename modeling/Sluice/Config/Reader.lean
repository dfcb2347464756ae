import Sluice.Config
import Sluice.Schema.Reader

/-!
# Reading configurations

A configuration is read from a mapping from names to settings. Every setting is checked by itself;
when all are in order, the rules that tie several of them together are checked as well: a store
needs certain settings, key columns are distinct and belong to the schema.
-/

namespace Sluice

/-- A whole number above a bound. -/
def Check.integerAbove (bound : Int) (v : Value) : Checked Int :=
  Checked.ensure (fun n => if bound < n then none else some (.notAbove bound)) (integer v)

/-- A whole number that is at least a bound. -/
def Check.integerFrom (bound : Int) (v : Value) : Checked Int :=
  Checked.ensure (fun n => if bound ≤ n then none else some (.below bound)) (integer v)

/-- A number above a bound. -/
def Check.numberAbove (bound : Int) (v : Value) : Checked Binary64 :=
  Checked.ensure (fun x => if (Binary64.ofInt bound).lt x then none else some (.notAbove bound))
    (number v)

/-- A number that is at least a bound. -/
def Check.numberFrom (bound : Int) (v : Value) : Checked Binary64 :=
  Checked.ensure (fun x => if (Binary64.ofInt bound).le x then none else some (.below bound))
    (number v)

namespace Bounds

/-- Hundred operations and four mebibytes. -/
def standard : Bounds := ⟨100, 4194304⟩

/-- Reads the bounds of batches. -/
def read (v : Value) : Checked Bounds :=
  (Check.members "BatchingConfig" v).bind fun es =>
    .ok (fun (n m : Int) => (⟨n.toNat, m.toNat⟩ : Bounds))
      |> Checked.feed (Check.optional "max_operations" 100 (Check.integerAbove 0) es)
      |> Checked.feed (Check.optional "max_bytes" 4194304 (Check.integerAbove 0) es)

end Bounds

namespace RetryPolicy

/-- Three retries after one, two and four seconds, at most thirty; sixty seconds for an attempt. -/
def standard : RetryPolicy := ⟨3, .ofInt 1, .ofInt 2, .ofInt 30, some (.ofInt 60)⟩

/-- Reads how submissions are repeated. -/
def read (v : Value) : Checked RetryPolicy :=
  (Check.members "RetryConfig" v).bind fun es =>
    .ok (fun (n : Int) delay rate most timeout? =>
        (⟨n.toNat, delay, rate, most, timeout?⟩ : RetryPolicy))
      |> Checked.feed (Check.optional "max_retries" 3 (Check.integerFrom 0) es)
      |> Checked.feed (Check.optional "retry_delay" standard.delay (Check.numberFrom 0) es)
      |> Checked.feed (Check.optional "backoff_rate" standard.rate (Check.numberFrom 1) es)
      |> Checked.feed (Check.optional "max_delay" standard.maxDelay (Check.numberFrom 0) es)
      |> Checked.feed (Check.optional "commit_timeout" standard.timeout?
          (Check.nullable (Check.numberAbove 0)) es)

end RetryPolicy

namespace StoreSettings

/-- A store in memory. -/
def standard : StoreSettings := ⟨"memory", none, none, none, true⟩

/-- A setting that is there and not empty. -/
def isGiven (setting? : Option Text) : Bool :=
  match setting? with
  | none => false
  | some t => !t.isEmpty

/-- The settings that a kind of store needs, and what is given for them. -/
def needed (s : StoreSettings) : List (Text × Option Text) :=
  if s.kind = Text.ofString "duckdb" then [("database", s.database?)]
  else if s.kind = Text.ofString "spanner" then
    [("project", s.project?), ("instance", s.instance?), ("database", s.database?)]
  else []

/-- The settings that are needed and not given. -/
def lacking (s : StoreSettings) : List Text :=
  (s.needed.filter fun (_, setting?) => !isGiven setting?).map (·.1)

/-- Reads where the table lies. -/
def read (v : Value) : Checked StoreSettings :=
  (Check.members "StoreConfig" v).bind fun es =>
    Checked.ensure
      (fun s => if s.lacking.isEmpty then none else some (.storeLacks s.kind s.lacking))
      (.ok StoreSettings.mk
        |> Checked.feed (Check.required "type" Check.text es)
        |> Checked.feed (Check.optional "database" none (Check.nullable Check.text) es)
        |> Checked.feed (Check.optional "project" none (Check.nullable Check.text) es)
        |> Checked.feed (Check.optional "instance" none (Check.nullable Check.text) es)
        |> Checked.feed (Check.optional "create_table" true Check.switch es))

end StoreSettings

namespace Config

/-- Reads names of key columns, at least one. -/
def readKeys (v : Value) : Checked (List Text) :=
  match Check.items? v with
  | none => Checked.refuse .notList
  | some xs =>
    Checked.ensure (fun names => if names.isEmpty then some .emptyList else none)
      (Checked.items Check.text 0 xs)

/-- Reads a schema, which may be given as a list of its columns alone. -/
def readSchema (v : Value) : Checked Schema :=
  match v with
  | .list xs => Schema.readColumns (.list xs)
  | v => Schema.read v

/-- The schema stands under one of two names; the first one counts. -/
def schemaMember (es : List (Value × Value)) : Checked Schema :=
  match Value.lookup "schema" es, Value.lookup "table_schema" es with
  | none, some v => Checked.under (.member "table_schema") (readSchema v)
  | _, _ => Check.required "schema" readSchema es

/-- What ties key columns and schema together. -/
def keyFault? (c : Config) : Option Cause :=
  if (firstRepeated? c.keyColumns).isSome then some .repeatedKey
  else
    let unknown := c.keyColumns.filter fun name => (c.schema.field? name).isNone
    if unknown.isEmpty then none else some (.unknownKeys unknown)

/-- Reads a configuration from its members. -/
def readMembers (es : List (Value × Value)) : Checked Config :=
  Checked.ensure keyFault?
    (.ok (fun name table keys verb schema bounds retry store (workers : Int) onRecord onBatch =>
        Config.mk name table keys verb schema bounds retry store workers.toNat onRecord onBatch)
      |> Checked.feed (Check.required "name" Check.text es)
      |> Checked.feed (Check.required "table" Check.text es)
      |> Checked.feed (Check.required "key_columns" readKeys es)
      |> Checked.feed (Check.optional "operation" .insert
          (Check.choice (Verb.all.map fun v => (v.word, v))) es)
      |> Checked.feed (schemaMember es)
      |> Checked.feed (Check.optional "batching" Bounds.standard Bounds.read es)
      |> Checked.feed (Check.optional "retry" RetryPolicy.standard RetryPolicy.read es)
      |> Checked.feed (Check.optional "store" StoreSettings.standard StoreSettings.read es)
      |> Checked.feed (Check.optional "parallelism" 1 (Check.integerFrom 1) es)
      |> Checked.feed (Check.optional "on_record_error" .skip
          (Check.word [("skip", RecordRule.skip), ("fail", .fail)]) es)
      |> Checked.feed (Check.optional "on_batch_failure" .fail
          (Check.word [("fail", BatchRule.fail), ("continue", .proceed)]) es))

/-- Whether every key of a mapping is a text. -/
def namesOnly (es : List (Value × Value)) : Bool :=
  es.all fun (k, _) => match k with
    | .text _ => true
    | _ => false

/-- Why a value is no configuration: its settings are not all named, or something is wrong with
them. -/
inductive Refusal where
  | unnamed
  | issues (is : List Issue)
  deriving Repr

/-- The failure of settings that are not named. -/
def unnamedFailure : Failure := .outside "TypeError" "keywords must be strings"

/-- Reads a configuration from entries. -/
def read (es : List (Value × Value)) : Except Refusal Config :=
  if !namesOnly es then .error .unnamed
  else match readMembers es with
    | .ok c => .ok c
    | .error is => .error (.issues is)

end Config

end Sluice
