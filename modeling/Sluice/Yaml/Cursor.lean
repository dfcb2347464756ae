import Sluice.Yaml.Token

/-!
# Places in a YAML text

A cursor is a place in a text: the characters from there on, how many came before, and line and
column. Where the text is at its end there is no next character; that counts as a gap (`atGap`).
-/

namespace Sluice.Yaml

/-- A place in a text. -/
structure Cursor where
  rest : List Char
  index : Nat := 0
  line : Nat := 0
  column : Nat := 0
  deriving Repr

namespace Cursor

/-- The next character. -/
def peek? (c : Cursor) : Option Char := c.rest.head?

/-- The character at a distance. -/
def peekAt? (c : Cursor) (n : Nat) : Option Char := (c.rest.drop n).head?

/-- Whether the text is at its end or a character with a property comes at a distance. -/
def endOr (p : Char → Bool) (c : Cursor) (n : Nat) : Bool :=
  match c.peekAt? n with
  | none => true
  | some x => p x

/-- Whether the character at a distance ends a word. -/
def atGap (c : Cursor) (n : Nat) : Bool := c.endOr isGap n

/-- Whether the line ends here. -/
def atLineEnd (c : Cursor) : Bool := c.endOr isBreak 0

/-- Whether a character comes next. -/
def nextIs (c : Cursor) (x : Char) : Bool := c.peek? == some x

/-- One character on. -/
def step (c : Cursor) : Cursor :=
  match c.rest with
  | [] => c
  | x :: rest =>
    if isBreak x && !(x == '\r' && rest.head? == some '\n') then
      { rest, index := c.index + 1, line := c.line + 1, column := 0 }
    else if x == '\uFEFF' then { c with rest, index := c.index + 1 }
    else { c with rest, index := c.index + 1, column := c.column + 1 }

/-- Some characters on. -/
def skip : Nat → Cursor → Cursor
  | 0, c => c
  | n + 1, c => skip n c.step

/-- The characters up to the first one without a property. -/
def span (p : Char → Bool) (c : Cursor) : List Char × Cursor :=
  let cs := c.rest.takeWhile p
  (cs, c.skip cs.length)

def skipWhile (p : Char → Bool) (c : Cursor) : Cursor := (c.span p).2

def skipBlanks (c : Cursor) : Cursor := c.skipWhile (· == ' ')

/-- A line end if one comes next, as a line feed unless it is a separator of its own. -/
def lineBreak? (c : Cursor) : Option (Char × Cursor) :=
  match c.rest with
  | '\r' :: '\n' :: _ => some ('\n', c.skip 2)
  | x :: _ =>
    if x == '\u2028' || x == '\u2029' then some (x, c.step)
    else if isBreak x then some ('\n', c.step)
    else none
  | [] => none

/-- Past a line end if one comes next. -/
def skipBreak (c : Cursor) : Cursor :=
  match c.lineBreak? with
  | some (_, c) => c
  | none => c

/-- Past a comment if one comes next. -/
def skipComment (c : Cursor) : Cursor :=
  if c.nextIs '#' then c.skipWhile (!isBreak ·) else c

/-- Whether a mark of three equal characters and a gap come next. -/
def atMark (c : Cursor) (x : Char) : Bool :=
  c.rest.take 3 == [x, x, x] && c.atGap 3

/-- Whether the mark between two documents comes next. -/
def atSeparator (c : Cursor) : Bool := c.atMark '-' || c.atMark '.'

end Cursor

end Sluice.Yaml
