import Sluice.Check
import Sluice.Text.Blank
import Sluice.Text.Utf8
import Sluice.Value

/-!
# Reading settings

A setting may be given in another form than its own as long as the meaning is plain: texts as
bytes, numbers and switches as texts or as numbers of another kind. Each reader says what it
accepts and refuses everything else with the cause that fits.
-/

namespace Sluice.Check

/-- A text of characters, or the bytes of one. -/
def text : Value → Checked Text
  | .text t => if t.isWellFormed then .ok t else Checked.refuse .brokenText
  | .bytes bs => read bs
  | .buffer bs => read bs
  | _ => Checked.refuse .notText
where
  /-- The text of bytes. -/
  read (bs : List UInt8) : Checked Text :=
    match Text.ofUtf8? bs with
    | some t => .ok t
    | none => Checked.refuse .brokenText

/-- The characters of a value that may be written out as a text: `none` for a value of another kind,
`some none` for bytes that are no text. -/
def written? : Value → Option (Option (List Char))
  | .text t => some t.chars?
  | .bytes bs => some ((Text.ofUtf8? bs).bind Text.chars?)
  | .buffer bs => some ((Text.ofUtf8? bs).bind Text.chars?)
  | _ => none

/-- Why a value that may be written out as a text holds no characters. -/
def unwritten (unreadable : Cause) : Value → Cause
  | .text _ => .brokenText
  | _ => unreadable

/-! ## 1. Numbers as texts -/

private def trimSpace (cs : List Char) : List Char :=
  let space := fun c : Char => Text.isSpaceCode c.toNat
  ((cs.dropWhile space).reverse.dropWhile space).reverse

/-- Single underscores between digits taken out; `none` when there is none or one is misplaced. -/
def withoutUnderscores? (cs : List Char) : Option (List Char) :=
  if cs.contains '_' ∧ cs.head? ≠ some '_' ∧ cs.getLast? ≠ some '_' ∧ !doubled cs then
    some (cs.filter (· ≠ '_'))
  else none
where
  /-- Whether two underscores stand side by side. -/
  doubled : List Char → Bool
    | '_' :: '_' :: _ => true
    | _ :: rest => doubled rest
    | [] => false

/-- The significant part of a whole number: everything after the zeros in front, but one zero stays
when nothing or a point follows. -/
def withoutLeadingZeros? : List Char → Option (List Char)
  | [] => none
  | '0' :: rest =>
    let tail := rest.dropWhile fun c => c = '0' ∨ c = '_'
    match tail with
    | [] => some [(('0' :: rest).getLast?).getD '0']
    | '.' :: _ => some ((('0' :: rest).drop (rest.length - tail.length)))
    | c :: _ => if c.isDigit then some tail else none
  | c :: rest => if c.isDigit then some (c :: rest) else none

/-- A number without places that are all zero. -/
def withoutZeroPlaces (cs : List Char) : List Char :=
  let whole := cs.takeWhile (· ≠ '.')
  let places := (cs.drop whole.length).drop 1
  if places.all (· = '0') then whole else cs

/-- A whole number as it may be written: a sign, zeros in front, single underscores, and places that
are all zero. -/
def integerText (cs : List Char) : Checked Int :=
  let (negative, body) := match trimSpace cs with
    | '-' :: rest => (true, rest)
    | '+' :: rest => (false, rest)
    | rest => (false, rest)
  match withoutLeadingZeros? body with
  | none => Checked.refuse .unreadableInteger
  | some significant =>
    let plain := withoutZeroPlaces significant
    let digits := (withoutUnderscores? plain).getD plain
    if 4300 < digits.length then Checked.refuse .overlongInteger
    else if digits.isEmpty then Checked.refuse .unreadableInteger
    else match Decimal.digitsValue? digits with
      | some n => .ok (if negative then -(n : Int) else n)
      | none => Checked.refuse .unreadableInteger

/-- A number as it may be written: digits with at most one point and an exponent, or the name of
infinity or of a missing number, after a sign. -/
def numberChars? (cs : List Char) : Option Binary64 :=
  let (negative, body) := match cs with
    | '-' :: rest => (true, rest)
    | '+' :: rest => (false, rest)
    | _ => (false, cs)
  let lower := body.map Char.toLower
  if lower = "inf".toList ∨ lower = "infinity".toList then some (.infinity negative)
  else if lower = "nan".toList then some .nan
  else match body with
    | '-' :: _ => none
    | '+' :: _ => none
    | _ =>
      match Decimal.ofChars? body with
      | some (.finite _ c e) => some (.ofDecimal negative c e)
      | _ => none

/-- A number in a text. -/
def numberText (cs : List Char) : Checked Binary64 :=
  match numberChars? (trimSpace cs) with
  | some x => .ok x
  | none =>
    match (withoutUnderscores? cs).bind numberChars? with
    | some x => .ok x
    | none => Checked.refuse .unreadableNumber

/-! ## 2. Numbers of other kinds -/

/-- The double nearest to a number of any kind but the complex ones; too large a number has none. -/
def nearest? : Value → Option Binary64
  | .bool b => some (.ofInt (if b then 1 else 0))
  | .int n => let x := Binary64.ofInt n; if x.isFinite then some x else none
  | .float x => some x
  | .decimal (.finite negative c e) => some (.ofDecimal negative c e)
  | .decimal (.infinite negative) => some (.infinity negative)
  | .decimal (.nan signaling ..) => if signaling then none else some .nan
  | .ratio n d => let x := Binary64.ofRatio n d; if x.isFinite then some x else none
  | _ => none

/-- A double without places as a whole number. -/
def wholeOf (x : Binary64) : Checked Int :=
  if !x.isFinite then Checked.refuse .notFinite
  else
    let (n, whole) := x.toInt
    if whole then .ok n else Checked.refuse .fractionalInteger

/-- A whole number. -/
def integer (v : Value) : Checked Int :=
  match v with
  | .int n => .ok n
  | .bool b => .ok (if b then 1 else 0)
  | .decimal d =>
    match d.ratio? with
    | none => Checked.refuse .notFinite
    | some (n, den) =>
      if n % den = 0 then .ok (n / den) else Checked.refuse .fractionalInteger
  | v =>
    match written? v with
    | some (some cs) => integerText cs
    | some none => Checked.refuse (unwritten .unreadableInteger v)
    | none =>
      match nearest? v with
      | some x => wholeOf x
      | none => Checked.refuse .notInteger

/-- A number. -/
def number (v : Value) : Checked Binary64 :=
  match written? v with
  | some (some cs) => numberText cs
  | some none => Checked.refuse (unwritten .unreadableNumber v)
  | none =>
    match nearest? v with
    | some x => .ok x
    | none => Checked.refuse .notNumber

/-- A switch in a text, letters of either case. -/
def switchText (cs : List Char) : Checked Bool :=
  let word := String.ofList (cs.map Char.toLower)
  if ["1", "on", "t", "true", "y", "yes"].contains word then .ok true
  else if ["0", "off", "f", "false", "n", "no"].contains word then .ok false
  else Checked.refuse .unreadableBool

/-- A switch: a truth value, a word for one, or the numbers 0 and 1. -/
def switch (v : Value) : Checked Bool :=
  match v with
  | .bool b => .ok b
  | v =>
    match written? v with
    | some (some cs) => switchText cs
    | some none => Checked.refuse (unwritten .unreadableBool v)
    | none =>
      match (nearest? v).map wholeOf with
      | some (.ok n) => ofWhole n
      | _ => Checked.refuse .notBool
where
  /-- The switch of a whole number. -/
  ofWhole (n : Int) : Checked Bool :=
    if n = 1 then .ok true else if n = 0 then .ok false else Checked.refuse .unreadableBool

/-! ## 3. Choices, lists and records -/

/-- One of a list of names, as a text or as bytes. -/
def choice {α : Type} (choices : List (Text × α)) (v : Value) : Checked α :=
  let given? := match text v with
    | .ok t => some t
    | .error _ => none
  match given?.bind fun t => choices.find? fun (name, _) => name == t with
  | some (_, a) => .ok a
  | none => Checked.refuse (.notChoice (choices.map (·.1)))

/-- One of a list of words, as a text. -/
def word {α : Type} (words : List (Text × α)) (v : Value) : Checked α :=
  match v with
  | .text t =>
    match words.find? fun (name, _) => name == t with
    | some (_, a) => .ok a
    | none => Checked.refuse (.notWord (words.map (·.1)))
  | _ => Checked.refuse (.notWord (words.map (·.1)))

/-- The items of a list, a tuple or a set. -/
def items? : Value → Option (List Value)
  | .list xs => some xs
  | .tuple xs => some xs
  | .set xs => some xs
  | _ => none

/-- The members of a mapping that is to become a record of the given name. -/
def members (name : Text) : Value → Checked (List (Value × Value))
  | .mapping es => .ok es
  | .frozen es => .ok es
  | _ => Checked.refuse (.notRecord name)

/-- A member that must be there. -/
def required {α : Type} (name : Text) (check : Value → Checked α) (es : List (Value × Value)) :
    Checked α :=
  Checked.under (.member name) <|
    match Value.lookup name es with
    | some v => check v
    | none => Checked.refuse .missing

/-- A member with a default. -/
def optional {α : Type} (name : Text) (default_ : α) (check : Value → Checked α)
    (es : List (Value × Value)) : Checked α :=
  match Value.lookup name es with
  | some v => Checked.under (.member name) (check v)
  | none => .ok default_

/-- A value that may also be null. -/
def nullable {α : Type} (check : Value → Checked α) (v : Value) : Checked (Option α) :=
  if v.isNull then .ok none else (check v).map some

end Sluice.Check
