import Sluice.Text

/-!
# Tokens of YAML

What a YAML text is made of: indicators, properties of nodes, and scalars whose text is already
folded and unescaped. Blocks have no indicators of their own; their beginnings and ends are tokens
all the same, found from the indentation.
-/

namespace Sluice.Yaml

/-- A tag as it is written: a handle, if it has one, and what follows it. -/
structure RawTag where
  handle? : Option (List Char)
  suffix : List Char
  deriving DecidableEq, Repr

/-- A token. A scalar is `plain` when it stands without quotes. -/
inductive Token where
  | version (major : Nat)
  | handle (name address : List Char)
  | directive
  | documentStart
  | documentEnd
  | blockSequenceStart
  | blockMappingStart
  | blockEnd
  | flowSequenceStart
  | flowSequenceEnd
  | flowMappingStart
  | flowMappingEnd
  | blockEntry
  | flowEntry
  | key
  | value
  | alias (name : List Char)
  | anchor (name : List Char)
  | tag (t : RawTag)
  | scalar (text : Text) (plain : Bool)
  deriving DecidableEq, Repr

/-! ## Characters -/

/-- The characters that end a line. -/
def isBreak (c : Char) : Bool :=
  c == '\n' || c == '\r' || c == '\x85' || c == '\u2028' || c == '\u2029'

/-- The characters that end a line, and the blank. -/
def isBlankOrBreak (c : Char) : Bool := c == ' ' || isBreak c

/-- The characters that end a word: blanks, tabs and line ends. -/
def isGap (c : Char) : Bool := c == ' ' || c == '\t' || isBreak c

/-- The characters of names. -/
def isNameChar (c : Char) : Bool := c.isAlphanum || c == '-' || c == '_'

/-- The characters that a text may hold at all. -/
def isPrintable (c : Char) : Bool :=
  let n := c.toNat
  n == 0x9 || n == 0xA || n == 0xD || (0x20 ≤ n && n ≤ 0x7E) || n == 0x85 ||
    (0xA0 ≤ n && n ≤ 0xD7FF) || (0xE000 ≤ n && n ≤ 0xFFFD) || 0x10000 ≤ n

end Sluice.Yaml
