import Sluice.Failure
import Sluice.Log
import Sluice.Number.Shortest

/-!
# Messages with placeholders

A message may hold placeholders that its arguments take the places of. A placeholder begins with a
percent sign, which may be followed by a name in parentheses, flags, a width, a precision and a
length, and ends with a letter that says how the argument is written. Arguments are taken in order,
and all of them have to be taken; or the only argument is a mapping, whose members are taken by
name.
-/

namespace Sluice.Log

/-- The flags of a placeholder. -/
structure Flags where
  left : Bool := false
  sign : Bool := false
  blank : Bool := false
  zero : Bool := false
  alternate : Bool := false
  deriving DecidableEq, Repr

/-- A number in a placeholder: missing, written out, or the next argument. -/
inductive Amount where
  | none
  | fixed (n : Nat)
  | argument
  deriving DecidableEq, Repr

/-- A placeholder; `position` is where its letter stands. -/
structure Placeholder where
  key? : Option Text := none
  flags : Flags := {}
  width : Amount := .none
  precision : Amount := .none
  letter : Symbol
  position : Nat
  deriving Repr

/-- Why a message cannot be completed, an entry has no line, or a name asks for no level. -/
inductive Fault where
  | incomplete
  | unclosedKey
  | unsupported (letter : Symbol) (position : Nat)
  | tooFew
  | tooMany
  | notMapping
  | noMember (key : Text)
  | wrongKind (letter wanted kind : Text)
  | notReal (kind : Text)
  | notWidth
  | notSymbol
  | noSuchSymbol
  | undefinedInteger
  | infiniteInteger
  | tooLarge
  | overlong
  | unlistedContext (kind : Text)
  | noLevel
  deriving DecidableEq, Repr

/-- A fault as a failure. -/
def Fault.failure : Fault → Failure
  | .incomplete => .outside "ValueError" "incomplete format"
  | .unclosedKey => .outside "ValueError" "incomplete format key"
  | .unsupported letter position =>
    let shown : Text := if 31 ≤ letter.code ∧ letter.code < 127 then [letter] else "?"
    let code : Text := (Nat.toDigits 16 letter.code).map .char
    .outside "ValueError"
      ("unsupported format character '" ++ shown ++ "' (0x" ++ code ++ ") at index " ++
        Text.ofNat position)
  | .tooFew => .outside "TypeError" "not enough arguments for format string"
  | .tooMany => .outside "TypeError" "not all arguments converted during string formatting"
  | .notMapping => .outside "TypeError" "format requires a mapping"
  | .noMember key => .outside "KeyError" key.quoted
  | .wrongKind letter wanted kind =>
    .outside "TypeError"
      ("%" ++ letter ++ " format: " ++ wanted ++ " is required, not " ++ kind)
  | .notReal kind => .outside "TypeError" ("must be real number, not " ++ kind)
  | .notWidth => .outside "TypeError" "* wants int"
  | .notSymbol => .outside "TypeError" "%c requires int or char"
  | .noSuchSymbol => .outside "OverflowError" "%c arg not in range(0x110000)"
  | .undefinedInteger => .outside "ValueError" "cannot convert float NaN to integer"
  | .infiniteInteger => .outside "OverflowError" "cannot convert float infinity to integer"
  | .tooLarge => .outside "OverflowError" "int too large to convert to float"
  | .overlong => .overlong
  | .unlistedContext kind =>
    .outside "AttributeError" ("'" ++ kind ++ "' object has no attribute 'items'")
  | .noLevel =>
    .outside "ValueError" "Unknown level: '%(levelname)s:%(name)s:%(message)s'"

/-! ## 1. Reading placeholders -/

private def flag? (f : Flags) (s : Symbol) : Option Flags :=
  match s with
  | .char '-' => some { f with left := true }
  | .char '+' => some { f with sign := true }
  | .char ' ' => some { f with blank := true }
  | .char '0' => some { f with zero := true }
  | .char '#' => some { f with alternate := true }
  | _ => none

/-- The flags at the start of a text, and what follows them. -/
def readFlags (f : Flags) : Text → Flags × Text
  | [] => (f, [])
  | s :: rest =>
    match flag? f s with
    | some f => readFlags f rest
    | none => (f, s :: rest)

private def isDigit : Symbol → Bool
  | .char c => c.isDigit
  | .half _ => false

private def digitsValue (t : Text) : Nat := t.foldl (fun n s => n * 10 + (s.code - 48)) 0

/-- A number at the start of a text, and what follows it. -/
def readAmount (t : Text) : Amount × Text :=
  match t with
  | .char '*' :: rest => (.argument, rest)
  | t =>
    let ds := t.takeWhile isDigit
    (if ds.isEmpty then .none else .fixed (digitsValue ds), t.drop ds.length)

/-- A precision at the start of a text, and what follows it; a point alone means zero. -/
def readPrecision (t : Text) : Amount × Text :=
  match t with
  | .char '.' :: rest =>
    match readAmount rest with
    | (.none, rest) => (.fixed 0, rest)
    | other => other
  | t => (.none, t)

/-- The name in parentheses, which may be nested, and what follows it. -/
def readKey : Nat → Text → Option (Text × Text)
  | _, [] => none
  | depth, s :: rest =>
    if s = .char ')' then
      match depth with
      | 0 => some ([], rest)
      | d + 1 => (readKey d rest).map fun (key, after) => (s :: key, after)
    else
      (readKey (if s = .char '(' then depth + 1 else depth) rest).map fun (key, after) =>
        (s :: key, after)

private def skipLength : Text → Text
  | .char 'h' :: rest => rest
  | .char 'l' :: rest => rest
  | .char 'L' :: rest => rest
  | t => t

/-- The placeholder behind a percent sign, and what follows it; `total` is the length of the whole
message. -/
def readPlaceholder (total : Nat) (t : Text) : Except Fault (Placeholder × Text) := do
  let (key?, t) ← match t with
    | .char '(' :: rest =>
      match readKey 0 rest with
      | some (key, after) => .ok (some key, after)
      | none => .error Fault.unclosedKey
    | t => .ok (none, t)
  let (flags, t) := readFlags {} t
  let (width, t) := readAmount t
  let (precision, t) := readPrecision t
  match skipLength t with
  | [] => .error .incomplete
  | letter :: rest =>
    .ok (⟨key?, flags, width, precision, letter, total - rest.length - 1⟩, rest)

/-! ## 2. Writing arguments -/

/-- A text filled up to a width. -/
def pad (flags : Flags) (width : Nat) (t : Text) : Text :=
  let fill := List.replicate (width - t.length) (Symbol.char ' ')
  if flags.left then t ++ fill else fill ++ t

/-- A sign and digits filled up to a width, by zeros between them if that is wanted. -/
def padNumber (flags : Flags) (width : Nat) (negative : Bool) (digits : Text) : Text :=
  let sign : Text :=
    if negative then "-" else if flags.sign then "+" else if flags.blank then " " else []
  if flags.zero && !flags.left then
    sign ++ Text.zeros (width - sign.length - digits.length) ++ digits
  else pad flags width (sign ++ digits)

/-- The whole part of a number. -/
def wholeOf? : Value → Option (Except Fault Int)
  | .int n => some (.ok n)
  | .bool b => some (.ok (if b then 1 else 0))
  | .float x =>
    some (if x.isNaN then .error .undefinedInteger
      else if x.isInfinite then .error .infiniteInteger
      else .ok x.toInt.1)
  | .decimal d => d.ratio?.map fun (n, k) => .ok (n.tdiv k)
  | .ratio n d => some (.ok (n.tdiv d))
  | _ => none

/-- A whole number, not rounded. -/
def integerOf? : Value → Option Int
  | .int n => some n
  | .bool b => some (if b then 1 else 0)
  | _ => none

/-- The double of a number. -/
def doubleOf (v : Value) : Except Fault Binary64 :=
  match v with
  | .int n => let x := Binary64.ofInt n; if x.isFinite then .ok x else .error .tooLarge
  | .bool b => .ok (.ofInt (if b then 1 else 0))
  | .float x => .ok x
  | .decimal (.finite negative c e) => .ok (.ofDecimal negative c e)
  | .decimal (.infinite negative) => .ok (.infinity negative)
  | .decimal (.nan ..) => .ok .nan
  | .ratio n d => .ok (.ofRatio n d)
  | v => .error (.notReal v.kindName)

/-- The given number of leading digits of a finite double that is not zero, rounded, and the
exponent of the first of them. -/
def leadingDigits (count : Nat) (x : Binary64) : Nat × Int :=
  let shortest := Number.Digits.shortest x.rank.val
  let estimate := shortest.exponent + (Text.ofNat shortest.digits).length - 1
  let value := x.units
  let scaled := fun (e : Int) => match e with
    | .ofNat k => (value * Nat.pow 10 k, Nat.pow 2 1074)
    | .negSucc k => (value, Nat.pow 2 1074 * Nat.pow 10 (k + 1))
  let (num, den) := scaled (-estimate)
  let top := if num < den then estimate - 1 else estimate
  let (num, den) := scaled (count - 1 - top)
  let n := Number.roundHalfEven num den
  if n = Nat.pow 10 count then (Nat.pow 10 (count - 1), top + 1) else (n, top)

private def exponentText (e : Int) : Text :=
  (if e < 0 then "e-" else "e+" : Text) ++ Text.padZeros 2 (Text.ofNat e.natAbs)

/-- Digits with a point behind the first one. -/
def pointed : Text → Text
  | [] => []
  | [d] => [d]
  | d :: rest => d :: .char '.' :: rest

/-- A magnitude with an exponent and the given number of places. -/
def scientific (places : Nat) (x : Binary64) : Text :=
  if x.isZero then pointed (Text.zeros (places + 1)) ++ exponentText 0
  else
    let (n, top) := leadingDigits (places + 1) x
    pointed (Text.ofNat n) ++ exponentText top

private def dropZeros (t : Text) : Text :=
  (t.reverse.dropWhile (· == .char '0')).reverse

/-- A magnitude with the given number of digits, written out if it is neither very small nor longer
than these, without zeros at the end. -/
def general (digits : Nat) (x : Binary64) : Text :=
  let digits := max digits 1
  if x.isZero then "0"
  else
    let (n, top) := leadingDigits digits x
    let ds := Text.ofNat n
    if -4 ≤ top ∧ top < digits then
      if top < 0 then "0." ++ Text.zeros (-top - 1).toNat ++ dropZeros ds
      else
        let whole := ds.take (top.toNat + 1)
        let places := dropZeros (ds.drop (top.toNat + 1))
        if places.isEmpty then whole else whole ++ .char '.' :: places
    else pointed (match dropZeros ds with
      | [] => "0"
      | kept => kept) ++ exponentText top

/-- The digits of a double in the notation of a letter. -/
def doubleDigits (letter : Char) (precision : Nat) (x : Binary64) : Text :=
  if x.isNaN then "nan"
  else if x.isInfinite then "inf"
  else
    let magnitude : Binary64 := { x with negative := false }
    if letter = 'e' then scientific precision magnitude
    else if letter = 'g' then general precision magnitude
    else Number.writeFixed precision magnitude

private def upperAscii (t : Text) : Text := t.map fun
  | .char c => .char c.toUpper
  | s => s

/-- The letter in a fault. -/
private def letterText (c : Char) : Text := [.char c]

/-- A whole number to a base. -/
def writeInteger (flags : Flags) (width : Nat) (precision? : Option Nat) (base : Nat) (mark : Text)
    (n : Int) : Text :=
  let digits : Text := (Nat.toDigits base n.natAbs).map .char
  let digits := Text.padZeros (precision?.getD 0) digits
  padNumber flags width (n < 0) ((if flags.alternate then mark else []) ++ digits)

private def cut (precision? : Option Nat) (t : Text) : Text :=
  match precision? with
  | some n => t.take n
  | none => t

/-- A text in which everything beyond ASCII is escaped. -/
def escaped (t : Text) : Text :=
  t.flatMap fun s => if s.code < 0x80 then [s] else Text.escapeCode s.code

/-- Writes an argument as a placeholder says. -/
def writeArgument (p : Placeholder) (width : Nat) (precision? : Option Nat) (v : Value) :
    Except Fault Text :=
  match p.letter with
  | .half _ => .error (.unsupported p.letter p.position)
  | .char c =>
    let text := fun t =>
      if v.holdsOverlong then .error .overlong else .ok (pad p.flags width (cut precision? t))
    let whole := fun base mark => match integerOf? v with
      | some n => Except.ok (writeInteger p.flags width precision? base mark n)
      | none => .error (Fault.wrongKind (letterText c) "an integer" v.kindName)
    let double := fun (letter : Char) => do
      let x ← doubleOf v
      return padNumber p.flags width (x.negative && !x.isNaN)
        (doubleDigits letter (precision?.getD 6) x)
    match c with
    | 's' => text v.shown
    | 'r' => text v.quoted
    | 'a' => text (escaped v.quoted)
    | 'x' => whole 16 "0x"
    | 'X' => (whole 16 "0x").map upperAscii
    | 'o' => whole 8 "0o"
    | 'f' => double 'f'
    | 'F' => (double 'f').map upperAscii
    | 'e' => double 'e'
    | 'E' => (double 'e').map upperAscii
    | 'g' => double 'g'
    | 'G' => (double 'g').map upperAscii
    | 'c' =>
      match v with
      | .text [s] => .ok (pad p.flags width [s])
      | v =>
        match integerOf? v with
        | none => .error .notSymbol
        | some n =>
          if n < 0 then .error .noSuchSymbol
          else match Symbol.ofCode? n.toNat with
            | some s => .ok (pad p.flags width [s])
            | none => .error .noSuchSymbol
    | c =>
      if c = 'd' ∨ c = 'i' ∨ c = 'u' then
        match wholeOf? v with
        | some (.ok n) =>
          if Value.isOverlong n then .error .overlong
          else .ok (writeInteger p.flags width precision? 10 [] n)
        | some (.error f) => .error f
        | none => .error (.wrongKind (letterText c) "a real number" v.kindName)
      else .error (.unsupported p.letter p.position)

/-! ## 3. Completing messages -/

/-- The arguments that are left, and the mapping that members are taken from. -/
structure Supply where
  rest : List Value
  members? : Option Value

namespace Supply

/-- The supply of a list of arguments. -/
def ofList : List Value → Supply
  | [.mapping (e :: es)] => ⟨[.mapping (e :: es)], some (.mapping (e :: es))⟩
  | args => ⟨args, none⟩

/-- The next argument. -/
def next (s : Supply) : Except Fault (Value × Supply) :=
  match s.rest with
  | [] => .error .tooFew
  | v :: rest => .ok (v, { s with rest })

/-- The argument of a placeholder. -/
def take (s : Supply) (key? : Option Text) : Except Fault (Value × Supply) :=
  match key? with
  | none => s.next
  | some key =>
    match s.members? with
    | none => .error .notMapping
    | some m =>
      match m.member? key with
      | some v => .ok (v, s)
      | none => .error (.noMember key)

/-- The number that an amount means. -/
def amount (s : Supply) : Amount → Except Fault (Option Int × Supply)
  | .none => .ok (none, s)
  | .fixed n => .ok (some n, s)
  | .argument =>
    match s.next with
    | .ok (v, s) =>
      match integerOf? v with
      | some n => .ok (some n, s)
      | none => .error .notWidth
    | .error f => .error f

end Supply

/-- Completes a message, taking arguments from left to right; `fuel` bounds the symbols read. -/
def completeFrom (total : Nat) : Nat → Supply → Text → Except Fault Text
  | 0, _, _ => .ok []
  | _, s, [] => if s.members?.isNone && !s.rest.isEmpty then .error .tooMany else .ok []
  | fuel + 1, s, .char '%' :: t => do
    let (p, rest) ← readPlaceholder total t
    if p.letter = .char '%' then
      return .char '%' :: (← completeFrom total fuel s rest)
    let (width, s) ← s.amount p.width
    let (precision, s) ← s.amount p.precision
    let (v, s) ← s.take p.key?
    let width := width.getD 0
    let flags := if width < 0 then { p.flags with left := true } else p.flags
    let written ← writeArgument { p with flags } width.natAbs (precision.map Int.toNat) v
    return written ++ (← completeFrom total fuel s rest)
  | fuel + 1, s, c :: t => do
    return c :: (← completeFrom total fuel s t)

/-- A message with its arguments; without arguments it stays as it is. -/
def complete (message : Text) (arguments : List Value) : Except Fault Text :=
  if arguments.isEmpty then .ok message
  else completeFrom message.length (message.length + 1) (.ofList arguments) message

/-- The line of an entry whose message takes arguments; its context is looked at first. -/
def Entry.lineWith (e : Entry) (arguments : List Value) : Except Fault Text :=
  match e.unlisted? with
  | some kind => .error (.unlistedContext kind)
  | none => (complete e.message arguments).map fun message => { e with message }.line

end Sluice.Log
