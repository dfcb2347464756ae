import Sluice.Value

/-!
# Values as keys

Rows are found by the values of their key columns. Two values are the same key when they are equal
as values (`same`): numbers of all kinds by their exact value, times with an offset by their
instant, containers part by part. Some values cannot be keys at all (`unusable?`).

Values have no identity beyond what they hold. So a number that is not equal to itself, and a value
of a foreign kind, is never found again, not even by the very object that was put there, which a
look-up that compares identities first would find.

Rows are listed in the order of their keys. Only values of one family are ordered; comparing others
is an error that names both kinds (`before`).
-/

namespace Sluice.Value

/-! ## 1. Exact numbers -/

/-- The exact value of a number. -/
inductive Exact where
  | ratio (num : Int) (den : Nat)
  | infinite (negative : Bool)
  | undefined
  deriving DecidableEq, Repr

namespace Exact

def ofFloat (x : Binary64) : Exact :=
  if x.isNaN then .undefined
  else if x.isInfinite then .infinite x.negative
  else .ratio x.scaled (Nat.pow 2 1074)

def ofDecimal (d : Decimal) : Exact :=
  match d with
  | .infinite negative => .infinite negative
  | .nan .. => .undefined
  | d => match d.ratio? with
    | some (n, k) => .ratio n k
    | none => .undefined

/-- Equality of exact numbers; what is undefined equals nothing. -/
def same : Exact → Exact → Bool
  | .ratio a b, .ratio c d => a * d == c * b
  | .infinite a, .infinite b => a == b
  | _, _ => false

/-- Order of exact numbers. -/
def lt : Exact → Exact → Bool
  | .ratio a b, .ratio c d => a * d < c * b
  | .infinite a, .infinite b => a && !b
  | .infinite a, .ratio .. => a
  | .ratio .., .infinite b => !b
  | _, _ => false

end Exact

/-- The exact value of a number of any real kind. -/
def number? : Value → Option Exact
  | .bool b => some (.ratio (if b then 1 else 0) 1)
  | .int n => some (.ratio n 1)
  | .float x => some (.ofFloat x)
  | .decimal d => some (.ofDecimal d)
  | .ratio n d => some (.ratio n d)
  | .complex re im => if im.isZero then some (.ofFloat re) else none
  | _ => none

/-- The content of a byte string of any kind. -/
def octets? : Value → Option (List UInt8)
  | .bytes bs => some bs
  | .buffer bs => some bs
  | .view bs => some bs
  | _ => none

/-! ## 2. Equality -/

/-- Equality of values that have no parts. -/
def sameAtom (a b : Value) : Bool :=
  match a, b with
  | .null, .null => true
  | .text s, .text t => s == t
  | .dateTime s, .dateTime t =>
    if s.offset.isSome && t.offset.isSome then s.instant == t.instant
    else s.offset.isNone && t.offset.isNone && s == t
  | .date s, .date t => s == t
  | .complex a b, .complex c d => a.numEq c && b.numEq d
  | a, b =>
    match a.number?, b.number? with
    | some x, some y => x.same y
    | _, _ =>
      match a.octets?, b.octets? with
      | some x, some y => x == y
      | _, _ => false

/-- Equality of values. -/
def same : Value → Value → Bool
  | .list xs, b => match b with
    | .list ys => sameItems xs ys
    | _ => false
  | .tuple xs, b => match b with
    | .tuple ys => sameItems xs ys
    | _ => false
  | .mapping xs, b => match b.entries? with
    | some ys => xs.length == ys.length && sameEntries xs ys
    | none => false
  | .frozen xs, b => match b.entries? with
    | some ys => xs.length == ys.length && sameEntries xs ys
    | none => false
  | .set xs, b => match b with
    | .set ys => xs.length == ys.length && allAmong xs ys
    | _ => false
  | a, b => sameAtom a b
where
  /-- Equality of lists of values. -/
  sameItems : List Value → List Value → Bool
    | [], [] => true
    | x :: xs, y :: ys => same x y && sameItems xs ys
    | _, _ => false
  /-- Whether every entry of the first list is among those of the second. -/
  sameEntries : List (Value × Value) → List (Value × Value) → Bool
    | [], _ => true
    | (k, v) :: rest, ys => ys.any (fun (k', v') => same k k' && same v v') && sameEntries rest ys
  /-- Whether every item of the first list is among those of the second. -/
  allAmong : List Value → List Value → Bool
    | [], _ => true
    | x :: rest, ys => ys.any (same x) && allAmong rest ys

/-- Equality of key tuples, by what they hold alone: a key with an undefined number or a value of a
foreign kind equals none, itself included. -/
def sameKey (a b : List Value) : Bool := same.sameItems a b

/-- Sets an entry of a mapping; an equal key that is there stays in its place. -/
def putEntry (k v : Value) : List (Value × Value) → List (Value × Value)
  | [] => [(k, v)]
  | (k', v') :: rest => if same k k' then (k', v) :: rest else (k', v') :: putEntry k v rest

/-- A mapping of entries, of which the last one counts for each key. -/
def mappingOf (entries : List (Value × Value)) : List (Value × Value) :=
  entries.foldl (fun es (k, v) => putEntry k v es) []

/-- The items of a set: each value once. -/
def distinct (items : List Value) : List Value :=
  items.foldl (fun xs x => if xs.any (same x) then xs else xs ++ [x]) []

/-! ## 3. Values that cannot be keys -/

/-- Why a value cannot be a key. -/
inductive Unusable where
  | kind (name : Text)
  | signalingDecimal
  deriving DecidableEq, Repr

/-- The wording of the refusal. -/
def Unusable.message : Unusable → Text
  | .kind name => "unhashable type: '" ++ name ++ "'"
  | .signalingDecimal => "Cannot hash a signaling NaN value"

/-- The first reason in a value why it cannot be a key. -/
def unusable? : Value → Option Unusable
  | .list _ => some (.kind "list")
  | .mapping _ => some (.kind "dict")
  | .frozen _ => some (.kind "mappingproxy")
  | .set _ => some (.kind "set")
  | .buffer _ => some (.kind "bytearray")
  | .decimal (.nan true _ _) => some .signalingDecimal
  | .tuple xs => firstUnusable? xs
  | _ => none
where
  /-- The first reason in a list of values. -/
  firstUnusable? : List Value → Option Unusable
    | [] => none
    | x :: rest => (unusable? x).or (firstUnusable? rest)

/-- The first reason why a key tuple cannot be used. -/
def unusableKey? (key : List Value) : Option Unusable := unusable?.firstUnusable? key

/-! ## 4. Order -/

/-- Why two values are not ordered. -/
inductive Unordered where
  | kinds (left right : Text)
  | mixedOffsets
  | dateWithTime
  deriving DecidableEq, Repr

/-- The wording of a failed comparison. -/
def Unordered.message : Unordered → Text
  | .kinds left right =>
    "'<' not supported between instances of '" ++ left ++ "' and '" ++ right ++
      "'"
  | .mixedOffsets => "can't compare offset-naive and offset-aware datetimes"
  | .dateWithTime => "can't compare datetime.datetime to datetime.date"

/-- Order of values that have no parts. -/
def beforeAtom (a b : Value) : Except Unordered Bool :=
  match a, b with
  | .text s, .text t => .ok (Text.lt s t)
  | .date s, .date t => .ok (s.ordinal < t.ordinal)
  | .dateTime s, .dateTime t =>
    if s.offset.isSome == t.offset.isSome then .ok (s.instant < t.instant) else .error .mixedOffsets
  | .date _, .dateTime _ => .error .dateWithTime
  | .dateTime _, .date _ => .error .dateWithTime
  | .complex .., b => .error (.kinds "complex" b.kindName)
  | a, .complex .. => .error (.kinds a.kindName "complex")
  | .view _, b => .error (.kinds "memoryview" b.kindName)
  | a, .view _ => .error (.kinds a.kindName "memoryview")
  | a, b =>
    match a.number?, b.number? with
    | some x, some y => .ok (x.lt y)
    | _, _ =>
      match a.octets?, b.octets? with
      | some x, some y => .ok (decide (x.map UInt8.toNat < y.map UInt8.toNat))
      | _, _ => .error (.kinds a.kindName b.kindName)

/-- Whether a value comes before another. -/
def before : Value → Value → Except Unordered Bool
  | .list xs, b => match b with
    | .list ys => beforeItems xs ys
    | b => .error (.kinds "list" b.kindName)
  | .tuple xs, b => match b with
    | .tuple ys => beforeItems xs ys
    | b => .error (.kinds "tuple" b.kindName)
  | .set xs, b => match b with
    | .set ys => .ok (xs.length < ys.length && same.allAmong xs ys)
    | b => .error (.kinds "set" b.kindName)
  | a, b => beforeAtom a b
where
  /-- Lists are ordered by their first difference. -/
  beforeItems : List Value → List Value → Except Unordered Bool
    | [], [] => .ok false
    | [], _ :: _ => .ok true
    | _ :: _, [] => .ok false
    | x :: xs, y :: ys => if same x y then beforeItems xs ys else before x y

/-- Order of key tuples. -/
def beforeKey (a b : List Value) : Except Unordered Bool := before.beforeItems a b

end Sluice.Value
