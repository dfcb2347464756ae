import Sluice.Arrow.Table
import Sluice.Exchange.Reports
import Sluice.Exchange.Requests

/-!
# Tables in exchange

The JSON forms of Arrow types and tables: a type is a name, some with arguments in parentheses, or
an object that says what it is made of; a table is given by its columns with their values.
-/

namespace Sluice.Exchange

open Arrow

/-! ## 1. Types -/

/-- A name and its arguments in parentheses. -/
def nameAndArguments (t : Text) : Text × List Text :=
  match t.splitFirst (.char '(') with
  | some (head, rest) => (head, Text.splitAll (.char ',') rest.dropLast)
  | none => (t, [])

private def natOf (t : Text) : Nat :=
  ((t.chars?.bind Json.integer?).getD 0).toNat

private def unitOf (t : Text) : TimeUnit := (TimeUnit.all.find? fun u => u.name == t).getD .second

/-- The types that a name is enough for. -/
def plainTypes : List (Text × DataType) :=
  [ ("null", .null), ("bool_", .bool), ("int8", .int true 8), ("int16", .int true 16),
    ("int32", .int true 32), ("int64", .int true 64), ("uint8", .int false 8),
    ("uint16", .int false 16), ("uint32", .int false 32), ("uint64", .int false 64),
    ("float16", .float 16), ("float32", .float 32), ("float64", .float 64),
    ("string", .string false), ("utf8", .string false), ("large_string", .string true),
    ("large_utf8", .string true), ("binary", .binary false), ("large_binary", .binary true),
    ("date32", .date32), ("date64", .date64), ("string_view", .other "string_view"),
    ("binary_view", .other "binary_view"),
    ("month_day_nano_interval", .other "month_day_nano_interval") ]

/-- The type with a name and arguments. -/
def namedType (t : Text) : DataType :=
  let (head, arguments) := nameAndArguments t
  let argument := fun n => (arguments[n]?).getD []
  match (head.toString?).getD "", arguments.isEmpty with
  | "decimal32", false => .decimal 32 (natOf (argument 0)) (natOf (argument 1))
  | "decimal64", false => .decimal 64 (natOf (argument 0)) (natOf (argument 1))
  | "decimal128", false => .decimal 128 (natOf (argument 0)) (natOf (argument 1))
  | "decimal256", false => .decimal 256 (natOf (argument 0)) (natOf (argument 1))
  | "binary", false => .fixedBinary (natOf (argument 0))
  | "timestamp", false => .timestamp (unitOf (argument 0)) arguments[1]?
  | "time32", false => .time 32 (unitOf (argument 0))
  | "time64", false => .time 64 (unitOf (argument 0))
  | "duration", false => .duration (unitOf (argument 0))
  | _, _ => ((plainTypes.find? fun (n, _) => n == t).map (·.2)).getD .null

/-- Whether something may be null, which it may unless it is said that it may not. -/
def nullableIn (es : List (Value × Value)) : Bool :=
  match Value.lookup "nullable" es with
  | some (.bool b) => b
  | _ => true

private def textIn (es : List (Value × Value)) (label : Text) : Text :=
  match Value.lookup label es with
  | some (.text t) => t
  | _ => []

mutual

/-- The type that a value describes. -/
def typeOf : Value → DataType
  | .text t => namedType t
  | .mapping es =>
    match hl : Value.lookup "list" es, hg : Value.lookup "large_list" es,
        hs : Value.lookup "struct" es, hm : Value.lookup "map" es,
        hd : Value.lookup "dictionary" es with
    | some item, _, _, _, _ =>
      have := Value.sizeOf_lookup_lt hl
      .list false "item" (typeOf item) (nullableIn es)
    | _, some item, _, _, _ =>
      have := Value.sizeOf_lookup_lt hg
      .list true "item" (typeOf item) (nullableIn es)
    | _, _, some (.list xs), _, _ =>
      have := Value.sizeOf_lookup_list_lt hs
      .struct (membersOf xs)
    | _, _, _, some (.list [k, v]), _ =>
      have := Value.sizeOf_lookup_list_lt hm
      .map (typeOf k) (typeOf v)
    | _, _, _, _, some (.list [k, v]) =>
      have := Value.sizeOf_lookup_list_lt hd
      .dictionary (typeOf k) (typeOf v)
    | _, _, _, _, _ => .null
  | _ => .null
termination_by v => sizeOf v
decreasing_by
  all_goals simp only [Value.mapping.sizeOf_spec, List.cons.sizeOf_spec, List.nil.sizeOf_spec] at *
  all_goals omega

/-- The members with their types that values describe. -/
def membersOf : List Value → List (Text × DataType × Bool)
  | [] => []
  | .mapping es :: rest =>
    let type := match h : Value.lookup "type" es with
      | some v =>
        have := Value.sizeOf_lookup_lt h
        typeOf v
      | none => .null
    (textIn es "name", type, nullableIn es) :: membersOf rest
  | _ :: rest => membersOf rest
termination_by vs => sizeOf vs
decreasing_by
  all_goals simp only [Value.mapping.sizeOf_spec, List.cons.sizeOf_spec] at *
  all_goals omega

end

/-- Columns with their types. -/
def columnTypesIn (j : Json) : List (Text × DataType × Bool) := membersOf ((items j).map read)

/-- A column with its values. -/
def columnIn (j : Json) : Column :=
  .ofValues (textAt j "name") (typeOf (read (find j "type"))) ((itemsAt j "values").map read)

/-- A table of columns. -/
def tableIn (j : Json) : Arrow.Table :=
  let columns := (items j).map columnIn
  ⟨columns, ((columns.map fun c => c.cells.length).max?).getD 0⟩

/-! ## 2. Reports -/

/-- Why a type cannot be read as a field. -/
def unreadable : Field.Unreadable → Json
  | .noType field type => failure (Field.noTypeFailure field type)
  | .refused is => refusal is

/-- Fields that were read from types, or why they were not. -/
def fieldsOrUnreadable : Except Field.Unreadable (List Field) → Json
  | .ok fs => success (.array (fs.map field))
  | .error u => unreadable u

/-- Columns with the texts of their types. -/
def columnTypes (columns : List (Text × DataType × Bool)) : Json :=
  .array (columns.map fun (label, type, nullable) =>
    .array [writeText label, writeText type.text, .bool nullable])

/-- The types that columns have, in tables and with two stores, and what they are read back as. -/
def schemaTypes (s : Schema) : Json :=
  object [ entry "arrow" (columnTypes s.toArrow),
    entry "arrow_direct" (.array (s.fields.map fun f => writeText f.toArrow.text)),
    entry "duckdb" (.array (s.fields.map fun f => success (writeText (Sql.columnType f)))),
    entry "spanner" (.array (s.fields.map fun f => match Cloud.columnType f with
      | .ok t => success (writeText t)
      | .error u => failure (.outside "ValueError" u.message))),
    entry "round_trip" (fieldsOrUnreadable ((Schema.ofArrow s.toArrow).map (·.fields))) ]

/-- Records in order, each as pairs. -/
def records (vs : List Value) : Json :=
  .array (vs.map fun v => .array ((v.entries?.getD []).map fun (k, w) => .array [write k, write w]))

/-- The records of a source, unless it fails. -/
def sourceRecords (s : Source) : Except Failure Json :=
  match s.failure? with
  | some f => .error f
  | none => .ok (records s.records)

end Sluice.Exchange
