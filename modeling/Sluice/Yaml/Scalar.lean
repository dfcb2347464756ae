import Sluice.Yaml.Cursor

/-!
# Scalars of YAML

How the text of a scalar is read in each of its forms: plain, between quotes, and as a block. Lines
are folded as the form asks: a single line end between two lines of text becomes a blank, further
ones stay. Every reader returns the text and the place behind it, or nothing where the form is
broken.
-/

namespace Sluice.Yaml

/-! ## 1. Line ends between lines -/

/-- Line ends, with blanks (and tabs if wanted) in front of them passed over; `none` where two
documents are separated. -/
def foldedBreaks (tabs : Bool) : Nat → Cursor → Option (List Char × Cursor)
  | 0, c => some ([], c)
  | fuel + 1, c =>
    if c.atSeparator then none
    else
      let c := c.skipWhile fun x => x == ' ' || (tabs && x == '\t')
      match c.lineBreak? with
      | none => some ([], c)
      | some (x, c) => (foldedBreaks tabs fuel c).map fun (xs, c) => (x :: xs, c)

/-- What stands for one line end followed by others. -/
def folded (first : Char) (others : List Char) : List Char :=
  if first != '\n' then first :: others
  else if others.isEmpty then [' ']
  else others

/-! ## 2. Quotes -/

/-- The characters that a letter behind a backslash stands for. -/
def escape? (c : Char) : Option Char :=
  match c with
  | '0' => some '\x00'
  | 'a' => some '\x07'
  | 'b' => some '\x08'
  | 't' => some '\t'
  | '\t' => some '\t'
  | 'n' => some '\n'
  | 'v' => some '\x0b'
  | 'f' => some '\x0c'
  | 'r' => some '\r'
  | 'e' => some '\x1b'
  | ' ' => some ' '
  | '"' => some '"'
  | '\\' => some '\\'
  | '/' => some '/'
  | 'N' => some '\x85'
  | '_' => some '\xa0'
  | 'L' => some '\u2028'
  | 'P' => some '\u2029'
  | _ => none

/-- How many digits follow a letter that introduces a number. -/
def codeLength? (c : Char) : Option Nat :=
  match c with
  | 'x' => some 2
  | 'u' => some 4
  | 'U' => some 8
  | _ => none

private def hexDigit? (c : Char) : Option Nat :=
  if c.isDigit then some (c.toNat - 48)
  else if 'a' ≤ c ∧ c ≤ 'f' then some (c.toNat - 87)
  else if 'A' ≤ c ∧ c ≤ 'F' then some (c.toNat - 55)
  else none

/-- The number of digits of base 16. -/
def hexValue? (cs : List Char) : Option Nat :=
  cs.foldl (fun n? c => n?.bind fun n => (hexDigit? c).map fun d => n * 16 + d) (some 0)

/-- The code point behind a backslash that does not end a line, and the place behind it. -/
def escaped (c : Cursor) : Option (Text × Cursor) :=
  match c.peek? with
  | none => none
  | some x =>
    match escape? x, codeLength? x with
    | some y, _ => some ([.char y], c.step)
    | none, some n =>
      let digits := (c.step.rest.take n)
      if digits.length < n then none
      else ((hexValue? digits).bind Symbol.ofCode?).map fun y => ([y], c.step.skip n)
    | none, none => none

/-- Blanks and line ends inside quotes. -/
def quotedGap (fuel : Nat) (c : Cursor) : Option (List Char × Cursor) :=
  let (blanks, c) := c.span fun x => x == ' ' || x == '\t'
  match c.peek? with
  | none => none
  | some _ =>
    match c.lineBreak? with
    | none => some (blanks, c)
    | some (x, c) => (foldedBreaks true fuel c).map fun (xs, c) => (folded x xs, c)

/-- The text up to the closing quote, and the place behind it. -/
def quoted (double : Bool) : Nat → Cursor → Option (Text × Cursor)
  | 0, _ => none
  | fuel + 1, c =>
    let more := fun (front : Text) (c : Cursor) =>
      (quoted double fuel c).map fun (t, c) => (front ++ t, c)
    let moreChars := fun (front : List Char) (c : Cursor) => more (front.map .char) c
    match c.peek? with
    | none => none
    | some x =>
      if x == '\'' && !double then
        if c.peekAt? 1 == some '\'' then more [.char '\''] (c.skip 2) else some ([], c.step)
      else if x == '"' && double then some ([], c.step)
      else if x == '\\' && double then
        let c := c.step
        match c.lineBreak? with
        | some (_, c) => (foldedBreaks true fuel c).bind fun (xs, c) => moreChars xs c
        | none => (escaped c).bind fun (ys, c) => more ys c
      else if isGap x then (quotedGap fuel c).bind fun (ys, c) => moreChars ys c
      else more [.char x] c.step

/-! ## 3. Plain scalars -/

/-- Whether a plain scalar can begin here. -/
def startsPlain (flow : Bool) (c : Cursor) : Bool :=
  match c.peek? with
  | none => false
  | some x =>
    !(isGap x || "-?:,[]\x7b\x7d#&*!|>'\"%@`".toList.contains x) ||
      (!c.atGap 1 && (x == '-' || (!flow && (x == '?' || x == ':'))))

/-- How many characters of a plain scalar stand here side by side. -/
def plainRun (flow : Bool) : List Char → Nat
  | [] => 0
  | x :: rest =>
    let closes := match rest.head? with
      | none => true
      | some y => isGap y || (flow && ",[]\x7b\x7d".toList.contains y)
    if isGap x || (x == ':' && closes) || (flow && ",?[]\x7b\x7d".toList.contains x) then 0
    else plainRun flow rest + 1

/-- The line ends and blanks that follow a line of a plain scalar; `none` where two documents are
separated. -/
def plainBreaks : Nat → Cursor → Option (List Char × Cursor)
  | 0, c => some ([], c)
  | fuel + 1, c =>
    if c.atSeparator then none
    else
      let c := c.skipBlanks
      match c.lineBreak? with
      | none => some ([], c)
      | some (x, c) => (plainBreaks fuel c).map fun (xs, c) => (x :: xs, c)

/-- What stands between two parts of a plain scalar, the place behind it, and whether a line ended;
nothing when the scalar does not go on. -/
def plainGap (fuel : Nat) (c : Cursor) : List Char × Cursor × Bool :=
  let (blanks, c) := c.span (· == ' ')
  match c.lineBreak? with
  | none => (blanks, c, false)
  | some (x, after) =>
    match plainBreaks fuel after with
    | some (xs, after) => (folded x xs, after, true)
    | none => ([], after, true)

/-- The text of a plain scalar, which is indented by at least `indent`, behind a gap that may hold a
line end; the place behind it; and whether a line ended after its last part. -/
def plain (flow : Bool) (indent : Int) :
    Nat → List Char → Bool → Cursor → List Char × Cursor × Bool
  | 0, _, broken, c => ([], c, broken)
  | fuel + 1, gap, broken, c =>
    let n := if c.nextIs '#' then 0 else plainRun flow c.rest
    if n = 0 then ([], c, broken)
    else
      let part := gap ++ c.rest.take n
      let (next, after, broken) := plainGap fuel (c.skip n)
      if next.isEmpty || after.nextIs '#' || (!flow && (after.column : Int) < indent) then
        (part, after, broken)
      else
        let (text, last, broken) := plain flow indent fuel next broken after
        (part ++ text, last, broken)

/-! ## 4. Blocks -/

/-- What happens to the line ends at the end of a block. -/
inductive Chomping where
  | clip
  | strip
  | keep
  deriving DecidableEq, Repr

private def chomping? (c : Char) : Option Chomping :=
  if c == '+' then some .keep else if c == '-' then some .strip else none

private def increment? (c : Char) : Option Nat :=
  if c.isDigit && c != '0' then some (c.toNat - 48) else none

/-- What the first line of a block says, and the place behind its line end. -/
def blockHeader (c : Cursor) : Option (Chomping × Option Nat × Cursor) :=
  let (chomping, increment, c) : Chomping × Option Nat × Cursor :=
    match c.peek?.bind chomping? with
    | some chomping =>
      match c.step.peek?.bind increment? with
      | some n => (chomping, some n, c.skip 2)
      | none => (chomping, none, c.step)
    | none =>
      match c.peek?.bind increment? with
      | some n =>
        match c.step.peek?.bind chomping? with
        | some chomping => (chomping, some n, c.skip 2)
        | none => (.clip, some n, c.step)
      | none => (.clip, none, c)
  if c.endOr isBlankOrBreak 0 then
    let c := c.skipBlanks.skipComment
    if c.atLineEnd then some (chomping, increment, c.skipBreak) else none
  else none

/-- The line ends in front of the first line of text, the place of the latter, and the largest
column that blanks reach. -/
def blockIndent : Nat → Nat → Cursor → List Char × Nat × Cursor
  | 0, widest, c => ([], widest, c)
  | fuel + 1, widest, c =>
    match c.lineBreak? with
    | some (x, c) =>
      let (xs, widest, c) := blockIndent fuel widest c
      (x :: xs, widest, c)
    | none =>
      if c.nextIs ' ' then blockIndent fuel (max widest c.step.column) c.step
      else ([], widest, c)

private def skipIndent (indent : Nat) (c : Cursor) : Cursor :=
  c.skip ((c.rest.takeWhile (· == ' ')).length.min (indent - c.column))

/-- Line ends, with the indentation of the next lines passed over. -/
def blockBreaks (indent : Nat) : Nat → Cursor → List Char × Cursor
  | 0, c => ([], c)
  | fuel + 1, c =>
    let c := skipIndent indent c
    match c.lineBreak? with
    | some (x, c) =>
      let (xs, c) := blockBreaks indent fuel c
      (x :: xs, c)
    | none => ([], c)

private def startsWithGap (c : Cursor) : Bool := c.nextIs ' ' || c.nextIs '\t'

/-- The lines of a block from a place on; `breaks` came before it. The last line end and those
behind it are returned apart. -/
def blockLines (fold : Bool) (indent : Nat) :
    Nat → List Char → Cursor → List Char × List Char × List Char × Cursor
  | 0, breaks, c => ([], [], breaks, c)
  | fuel + 1, breaks, c =>
    let leadingText := !startsWithGap c
    let (line, c) := c.span (!isBreak ·)
    let (ending, c) : List Char × Cursor := match c.lineBreak? with
      | some (x, c) => ([x], c)
      | none => ([], c)
    let (next, c) := blockBreaks indent fuel c
    if c.column == indent && c.peek?.isSome then
      let joint :=
        if fold && ending == ['\n'] && leadingText && !startsWithGap c then
          (if next.isEmpty then [' '] else [])
        else ending
      let (text, last, rest, c) := blockLines fold indent fuel next c
      (breaks ++ line ++ joint ++ text, last, rest, c)
    else (breaks ++ line, ending, next, c)

/-- The text of a block, which is indented by at least `least`, and the place behind it. -/
def block (fold : Bool) (least : Nat) (fuel : Nat) (c : Cursor) : Option (List Char × Cursor) :=
  (blockHeader c).map fun (chomping, increment?, c) =>
    let (indent, breaks, c) : Nat × List Char × Cursor :=
      match increment? with
      | some n =>
        let indent := least + n - 1
        let (breaks, c) := blockBreaks indent fuel c
        (indent, breaks, c)
      | none =>
        let (breaks, widest, c) := blockIndent fuel 0 c
        (max least widest, breaks, c)
    let (text, last, rest, c) : List Char × List Char × List Char × Cursor :=
      if c.column == indent && c.peek?.isSome then blockLines fold indent fuel breaks c
      else ([], [], breaks, c)
    match chomping with
    | .strip => (text, c)
    | .clip => (text ++ last, c)
    | .keep => (text ++ last ++ rest, c)

end Sluice.Yaml
