import Sluice.Text.Visible

/-!
# Quoted texts

A text between quotes, such that every symbol of it can be told: single quotes unless the text holds
one and no double quote; the quote and the backslash escaped; tab, line feed and carriage return by
letter; everything else that is not visible by its number in two, four or eight digits.
Byte strings are quoted by the same rule, everything beyond ASCII being escaped.
-/

namespace Sluice.Text

/-- A number in `width` digits of base 16. -/
def hex (width n : Nat) : Text := padZeros width ((Nat.toDigits 16 n).map .char)

/-- The escape of a code point by its number. -/
def escapeCode (code : Nat) : Text :=
  if code ≤ 0xFF then "\\x" ++ hex 2 code
  else if code ≤ 0xFFFF then "\\u" ++ hex 4 code
  else "\\U" ++ hex 8 code

/-- One symbol between quotes; `shown` says which code points stand for themselves. -/
def quoteSymbol (quote : Char) (shown : Nat → Bool) (s : Symbol) : Text :=
  match s with
  | .char c =>
    if c = quote ∨ c = '\\' then [.char '\\', .char c]
    else if c = '\t' then "\\t"
    else if c = '\n' then "\\n"
    else if c = '\r' then "\\r"
    else if shown c.toNat then [.char c]
    else escapeCode c.toNat
  | .half i => escapeCode (0xD800 + i.val)

/-- The quote that a text is put between. -/
def quoteMark (t : Text) : Char :=
  if t.contains (.char '\'') && !t.contains (.char '"') then '"' else '\''

/-- A text between quotes. -/
def quoted (t : Text) : Text :=
  let q := quoteMark t
  .char q :: t.flatMap (quoteSymbol q isVisible) ++ [.char q]

/-- Bytes between quotes. -/
def quotedBytes (bs : List UInt8) : Text :=
  let t : Text := bs.map fun b => .char (Char.ofNat b.toNat)
  let q := quoteMark t
  .char 'b' :: .char q :: t.flatMap (quoteSymbol q fun c => 0x20 ≤ c && c < 0x7F) ++ [.char q]

end Sluice.Text
