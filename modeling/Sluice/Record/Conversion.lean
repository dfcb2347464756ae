import Sluice.Record.Rejection
import Sluice.Schema

/-!
# Converting values

A value of a record becomes a value of its field's type without loss or not at all. Numbers may only
be widened, texts and bytes pass as they are, times are shifted to UTC, lists and mappings are
converted part by part, members that are not declared being left out. The first fault in the order
of the walk is the one that is reported (`Field.convert`, `Field.convertFrom`).
-/

namespace Sluice.Record

/-- The outcome of a conversion. -/
abbrev Converted := Except Refusal Value

/-- Smallest and largest values of the integer types. -/
def fitsInt32 (n : Int) : Bool := -2147483648 ≤ n && n ≤ 2147483647

def fitsInt64 (n : Int) : Bool := -9223372036854775808 ≤ n && n ≤ 9223372036854775807

/-- The double that equals a whole number. -/
def exactInteger (n : Int) : Except Obstacle Binary64 :=
  let x := Binary64.ofInt n
  if !x.isFinite then .error .integerTooLarge
  else if x.isRatio n 1 then .ok x
  else .error .integerInexact

/-- The double that equals a ratio. -/
def exactRatio (num : Int) (den : Nat) : Except Obstacle Binary64 :=
  let x := Binary64.ofRatio num den
  if !x.isFinite then .error .valueTooLarge
  else if x.isRatio num den then .ok x
  else .error .valueInexact

/-- The double that equals a value; `none` for values that are no real numbers. -/
def exactDouble? : Value → Option (Except Obstacle Binary64)
  | .int n => some (exactInteger n)
  | .ratio num den => some (exactRatio num den)
  | .float x => some (.ok x)
  | _ => none

/-- The conversion to a scalar type; `none` when there is none from values of that kind. -/
def scalar? (type : Scalar) (v : Value) : Option (Except Obstacle Value) :=
  match type, v with
  | .bool, .bool b => some (.ok (.bool b))
  | .int32, .int n => some (if fitsInt32 n then .ok (.int n) else .error .int32Range)
  | .int64, .int n => some (if fitsInt64 n then .ok (.int n) else .error .int64Range)
  | .double, v => (exactDouble? v).map fun r => r.map .float
  | .float, v => (exactDouble? v).map fun r => r.bind fun x =>
      if x.fitsBinary32 then .ok (.float x) else .error .notSingle
  | .numeric, .decimal d =>
    some (if d.isFinite then .ok (.decimal d) else .error .notFinite)
  | .numeric, .int n => some (.ok (.decimal (.ofInt n)))
  | .string, .text t => some (if t.isWellFormed then .ok (.text t) else .error .brokenText)
  | .bytes, .bytes bs => some (.ok (.bytes bs))
  | .bytes, .buffer bs => some (.ok (.bytes bs))
  | .bytes, .view bs => some (.ok (.bytes bs))
  | .date, .date d => some (.ok (.date d))
  | _, _ => none

/-- The conversion of a value that is not null to a scalar type. -/
def scalar (type : Scalar) (path : Text) (v : Value) : Converted :=
  match type, v with
  | .timestamp, .dateTime t =>
    match t.toUtc? with
    | some utc => .ok (.dateTime utc)
    | none => .error (.halted .outsideCalendar)
  | _, _ =>
    match scalar? type v with
    | some (.ok w) => .ok w
    | some (.error obstacle) =>
      .error (.rejected (.mismatch path type.name v.kindName (some obstacle)))
    | none => .error (.rejected (.mismatch path type.name v.kindName none))

/-- The items of a list or a tuple. -/
def items? : Value → Option (List Value)
  | .list xs => some xs
  | .tuple xs => some xs
  | _ => none

/-- The path of an item. -/
def itemPath (path : Text) (index : Nat) : Text := path ++ "[" ++ Text.ofNat index ++ "]"

/-- The path of a member. -/
def memberPath (path name : Text) : Text := path ++ .char '.' :: name

/-- Converts items in order, the first having the given index, up to the first refusal. -/
def convertItems (convert : Text → Value → Converted) (path : Text) :
    Nat → List Value → Except Refusal (List Value)
  | _, [] => .ok []
  | i, x :: rest => do
    let y ← convert (itemPath path i) x
    let ys ← convertItems convert path (i + 1) rest
    return y :: ys

end Sluice.Record

namespace Sluice.Field

open Record

/-- A value that is not there: null if that is allowed. -/
def convertAbsent (f : Field) (path : Text) : Converted :=
  if f.nullable then .ok .null else .error (.rejected (.missingMember path))

/-- Converts a value to the type of a field. -/
def convert (f : Field) (path : Text) (v : Value) : Converted :=
  match f with
  | .scalar _ nullable type .. =>
    if v.isNull then convertNull nullable path else Record.scalar type path v
  | .array _ nullable element _ =>
    if v.isNull then convertNull nullable path
    else match items? v with
      | some xs => (convertItems (fun p x => element.convert p x) path 0 xs).map .list
      | none => .error (.rejected (.mismatch path (typeName f) v.kindName none))
  | .record _ nullable members _ =>
    if v.isNull then convertNull nullable path
    else match v.entries? with
      | some es => (convertMembers members path es).map Value.ofPairs
      | none => .error (.rejected (.mismatch path (typeName f) v.kindName none))
where
  /-- A null is kept where it is allowed. -/
  convertNull (nullable : Bool) (path : Text) : Converted :=
    if nullable then .ok .null else .error (.rejected (.null path))
  /-- Converts the declared members in order, up to the first refusal. -/
  convertMembers : List Field → Text → List (Value × Value) →
      Except Refusal (List (Text × Value))
    | [], _, _ => .ok []
    | member :: rest, path, es => do
      let inner := memberPath path member.name
      let w ← match Value.lookup member.name es with
        | some w => member.convert inner w
        | none => member.convertAbsent inner
      let ws ← convertMembers rest path es
      return (member.name, w) :: ws

/-- The path that a conversion starts from: the one that is given, or the name of the field when
none is; an empty path is none. -/
def startPath (f : Field) (path? : Option Text) : Text :=
  match path? with
  | some path => if path.isEmpty then f.name else path
  | none => f.name

/-- Converts a value that stands alone, messages naming its places from a path on. -/
def convertFrom (f : Field) (path? : Option Text) (v : Value) : Converted :=
  f.convert (f.startPath path?) v

end Sluice.Field
