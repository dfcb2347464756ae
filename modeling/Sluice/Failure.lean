import Sluice.Value.Display

/-!
# Failures

Whatever goes wrong while records are written is a failure of some kind, with a message and a
context of named values. The kinds of this library form a tree (`Kind.parent?`); a failure from
outside has a kind known by its name only. Some kinds stand for a passing trouble, after which the
same submission may succeed (`Kind.isTransient`).
-/

namespace Sluice

/-- The kinds of failures. -/
inductive Kind where
  | general
  | configuration
  | input
  | sink
  | record
  | mismatch
  | nullNotAllowed
  | missingMember
  | missingKey
  | commit
  | commitRejected
  | commitExhausted
  | store
  | storeTransient
  | storeRejected
  | outside (label : Text)
  deriving DecidableEq, Repr

namespace Kind

/-- The kinds of this library. -/
def own : List Kind :=
  [.general, .configuration, .input, .sink, .record, .mismatch, .nullNotAllowed, .missingMember,
    .missingKey, .commit, .commitRejected, .commitExhausted, .store, .storeTransient,
    .storeRejected]

/-- The name under which a kind is reported. -/
def label : Kind → Text
  | .general => "SpannerLoadError"
  | .configuration => "ConfigError"
  | .input => "InputError"
  | .sink => "EngineError"
  | .record => "RecordError"
  | .mismatch => "TypeMismatchError"
  | .nullNotAllowed => "NullNotAllowedError"
  | .missingMember => "MissingRequiredFieldError"
  | .missingKey => "MissingKeyError"
  | .commit => "CommitError"
  | .commitRejected => "CommitRejectedError"
  | .commitExhausted => "CommitExhaustedError"
  | .store => "StoreError"
  | .storeTransient => "TransientStoreError"
  | .storeRejected => "StoreRejectedError"
  | .outside label => label

/-- The kind reported under a name. -/
def ofLabel (label : Text) : Kind := (own.find? fun k => k.label == label).getD (.outside label)

/-- The next more general kind. -/
def parent? : Kind → Option Kind
  | .general => none
  | .outside _ => none
  | .mismatch => some .record
  | .nullNotAllowed => some .record
  | .missingMember => some .record
  | .missingKey => some .record
  | .commitRejected => some .commit
  | .commitExhausted => some .commit
  | .storeTransient => some .store
  | .storeRejected => some .store
  | _ => some .general

/-- The kind itself and every more general one, if it is a kind of this library. -/
def lineage (k : Kind) : List Kind :=
  match k, k.parent? with
  | .outside _, _ => []
  | k, none => [k]
  | k, some p => k :: p :: p.parent?.toList

/-- Whether the failure rejects a single record. -/
def isRecord (k : Kind) : Bool := k.lineage.contains .record

/-- The failures of a lost or refused connection. -/
def connectionLabels : List Text :=
  ["ConnectionError", "ConnectionResetError", "ConnectionRefusedError", "ConnectionAbortedError",
    "BrokenPipeError"]

/-- Whether the same submission may succeed when it is made again. -/
def isTransient : Kind → Bool
  | .storeTransient => true
  | .outside label => label == Text.ofString "TimeoutError" || connectionLabels.contains label
  | _ => false

end Kind

/-- One failure. The place in a record, the index of an operation and the number of attempts are
known for some kinds only. -/
structure Failure where
  kind : Kind
  message : Text
  context : List (Text × Value) := []
  place? : Option Text := none
  operation? : Option Nat := none
  attempts? : Option Nat := none
  deriving Repr

namespace Failure

/-- The message, followed by the context in parentheses if there is one. -/
def text (f : Failure) : Text :=
  if f.context.isEmpty then f.message
  else
    f.message ++ " (" ++
      Text.join ", " (f.context.map fun (name, v) => name ++ .char '=' :: v.shown) ++ ")"

/-- The failure at a place in a record; the context names the place unless it has a `field`. -/
def placed (f : Failure) (place : Text) : Failure :=
  { f with
    place? := some place
    context := if f.context.any fun (name, _) => name == Text.ofString "field" then f.context
      else f.context ++ [Value.entry "field" (.text place)] }

/-- A failure from outside, known by a name and a message. -/
def outside (label message : Text) : Failure := { kind := .outside label, message }

/-- The failure to write a whole number that has too many digits. -/
def overlong : Failure := outside "ValueError" (Value.digitsExceeded ++ Value.digitsAdvice)

/-- The refusal of the operation with an index, because of what is or is not under its key. The
message names the key; where that holds a number which cannot be written, there is no refusal but
the failure to write it, which tells neither the table nor the index. -/
def keyRefused (what : Text) (table : Text) (key : List Value) (index : Nat) : Failure :=
  if (Value.tuple key).holdsOverlong then overlong
  else
    { kind := .storeRejected, message := what ++ ": " ++ (Value.tuple key).quoted
      context := [("table", .text table)], operation? := some index }

/-- The text of a failure, or its name when there is none. -/
def textOrLabel (f : Failure) : Text := if f.text.isEmpty then f.kind.label else f.text

end Failure

end Sluice
