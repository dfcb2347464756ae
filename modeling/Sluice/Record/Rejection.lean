import Sluice.Failure

/-!
# Why a record is not accepted

A record is rejected for one of four causes, each at a place named by a path: the field's name,
`.name` for each member and `[i]` for each item on the way. Other records are not affected. Apart
from that, a record may stop the whole run (`Halt`): a time whose shift to UTC leaves the calendar,
or a record that is not a mapping.
-/

namespace Sluice.Record

/-- What stands in the way of a conversion between numbers or texts. -/
inductive Obstacle where
  | int32Range
  | int64Range
  | notSingle
  | integerTooLarge
  | integerInexact
  | valueTooLarge
  | valueInexact
  | notFinite
  | brokenText
  deriving DecidableEq, Repr

/-- The wording of an obstacle. -/
def Obstacle.message : Obstacle → Text
  | .int32Range => "value out of INT32 range"
  | .int64Range => "value out of INT64 range"
  | .notSingle => "value not representable as FLOAT"
  | .integerTooLarge => "integer too large"
  | .integerInexact => "integer not exactly representable"
  | .valueTooLarge => "value too large"
  | .valueInexact => "value not exactly representable"
  | .notFinite => "NUMERIC must be finite"
  | .brokenText => "string is not valid UTF-8"

/-- Why a record is rejected. -/
inductive Rejection where
  | missingKey (column : Text)
  | missingMember (path : Text)
  | null (path : Text)
  | mismatch (path declared given : Text) (obstacle? : Option Obstacle)
  deriving DecidableEq, Repr

namespace Rejection

def kind : Rejection → Kind
  | .missingKey _ => .missingKey
  | .missingMember _ => .missingMember
  | .null _ => .nullNotAllowed
  | .mismatch .. => .mismatch

/-- Where the fault lies. -/
def path : Rejection → Text
  | .missingKey column => column
  | .missingMember path => path
  | .null path => path
  | .mismatch path .. => path

/-- The wording of a rejection. -/
def message : Rejection → Text
  | .missingKey column => "Key column '" ++ column ++ "' is missing or null"
  | .missingMember path => "Required field '" ++ path ++ "' is missing"
  | .null path => "Field '" ++ path ++ "' is not nullable"
  | .mismatch path declared given obstacle? =>
    "Field '" ++ path ++ "' expects " ++ declared ++ ", got " ++ given ++
      (match obstacle? with
        | none => []
        | some obstacle => ": " ++ obstacle.message)

/-- The rejection as a failure. -/
def failure (r : Rejection) : Failure :=
  { kind := r.kind, message := r.message, context := [("field", .text r.path)]
    place? := some r.path }

end Rejection

/-- Why the whole run stops at a record. -/
inductive Halt where
  | outsideCalendar
  | notMapping (kind : Text)
  | notContainer (kind : Text)
  | notByName (kind : Text)
  | textNotByName
  | notSubscriptable (kind : Text)
  | bytesContainer
  deriving DecidableEq, Repr

/-- The halt as a failure. -/
def Halt.failure : Halt → Failure
  | .outsideCalendar => .outside "OverflowError" "date value out of range"
  | .notMapping kind =>
    .outside "AttributeError" ("'" ++ kind ++ "' object has no attribute 'get'")
  | .notContainer kind => .outside "TypeError" ("argument of type '" ++ kind ++ "' is not iterable")
  | .notByName kind =>
    .outside "TypeError" (kind ++ " indices must be integers or slices, not str")
  | .textNotByName =>
    .outside "TypeError" "string indices must be integers, not 'str'"
  | .notSubscriptable kind =>
    .outside "TypeError" ("'" ++ kind ++ "' object is not subscriptable")
  | .bytesContainer =>
    .outside "TypeError" "a bytes-like object is required, not 'str'"

/-- Why a record or a value is not accepted. -/
inductive Refusal where
  | rejected (r : Rejection)
  | halted (h : Halt)
  deriving DecidableEq, Repr

/-- The refusal as a failure. -/
def Refusal.failure : Refusal → Failure
  | .rejected r => r.failure
  | .halted h => h.failure

end Sluice.Record
