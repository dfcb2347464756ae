import Sluice.Json
import Sluice.Text.Quoted

/-!
# Writing JSON

A tree written on one line, with a blank after every comma and colon. Strings are written in ASCII:
other characters and lone halves are escaped by their number, characters beyond the first plane as
two halves.
-/

namespace Sluice.Json

/-- The escape of a 16-bit unit. -/
def unitEscape (n : Nat) : List Char :=
  let ds := Nat.toDigits 16 n
  '\\' :: 'u' :: (List.replicate (4 - ds.length) '0' ++ ds)

/-- One symbol inside a string. -/
def symbolChars : Symbol → List Char
  | .half i => unitEscape (0xD800 + i.val)
  | .char c =>
    match c with
    | '"' => ['\\', '"']
    | '\\' => ['\\', '\\']
    | '\n' => ['\\', 'n']
    | '\r' => ['\\', 'r']
    | '\t' => ['\\', 't']
    | '\x08' => ['\\', 'b']
    | '\x0c' => ['\\', 'f']
    | c =>
      let n := c.toNat
      if n < 0x20 ∨ (0x7F ≤ n ∧ n < 0x10000) then unitEscape n
      else if n < 0x10000 then [c]
      else
        unitEscape (0xD800 + (n - 0x10000) / 0x400) ++ unitEscape (0xDC00 + (n - 0x10000) % 0x400)

/-- A string between quotes, in front of what follows. -/
def writeText (t : Text) (rest : List Char) : List Char :=
  '"' :: t.foldr (fun s after => symbolChars s ++ after) ('"' :: rest)

/-- Writes a tree in front of what follows. -/
def writeBefore : Json → List Char → List Char
  | .null, rest => "null".toList ++ rest
  | .bool b, rest => (if b then "true" else "false").toList ++ rest
  | .number lexeme, rest => lexeme ++ rest
  | .string t, rest => writeText t rest
  | .array items, rest => '[' :: writeItems items (']' :: rest)
  | .object members, rest => '{' :: writeMembers members ('}' :: rest)
where
  /-- Writes items with commas between them. -/
  writeItems : List Json → List Char → List Char
    | [], rest => rest
    | [v], rest => writeBefore v rest
    | v :: vs, rest => writeBefore v (',' :: ' ' :: writeItems vs rest)
  /-- Writes members with commas between them. -/
  writeMembers : List (Text × Json) → List Char → List Char
    | [], rest => rest
    | [(k, v)], rest => writeText k (':' :: ' ' :: writeBefore v rest)
    | (k, v) :: ms, rest =>
      writeText k (':' :: ' ' :: writeBefore v (',' :: ' ' :: writeMembers ms rest))

/-- The tree as a string. -/
def write (v : Json) : String := String.ofList (writeBefore v [])

end Sluice.Json
