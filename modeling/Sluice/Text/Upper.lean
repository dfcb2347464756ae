import Sluice.Text

/-!
# Capital letters of names

Names of column types are compared in capital letters of ASCII. `capital` gives the capital form of
every code point whose capital form consists of such letters, which beyond ASCII are the dotless i,
the long and the sharp s, and the ligatures; no other code point can take part in such a name, so
the others are left as they are.
-/

namespace Sluice.Text

/-- The capital form of a symbol as far as ASCII reaches. -/
def capital : Symbol → Text
  | .char c =>
    if c.toNat < 0x80 then [.char c.toUpper]
    else match c.toNat with
      | 0xDF => "SS"
      | 0x131 => "I"
      | 0x17F => "S"
      | 0xFB00 => "FF"
      | 0xFB01 => "FI"
      | 0xFB02 => "FL"
      | 0xFB03 => "FFI"
      | 0xFB04 => "FFL"
      | 0xFB05 => "ST"
      | 0xFB06 => "ST"
      | _ => [.char c]
  | s => [s]

/-- A name in capital letters as far as ASCII reaches. -/
def upper (t : Text) : Text := t.flatMap capital

end Sluice.Text
