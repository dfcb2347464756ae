import Sluice.Text

/-!
# Blanks

Two sets of blanks are in use. `isBlank` is the wider one, which ends names and template
expressions; `isSpace` leaves out the four information separators and is what surrounds numbers in a
configuration.
-/

namespace Sluice.Text

/-- White space of every script. -/
def isSpaceCode (code : Nat) : Bool :=
  (0x09 ≤ code && code ≤ 0x0D) || code == 0x20 || code == 0x85 || code == 0xA0 || code == 0x1680 ||
    (0x2000 ≤ code && code ≤ 0x200A) || code == 0x2028 || code == 0x2029 || code == 0x202F ||
    code == 0x205F || code == 0x3000

/-- White space and the information separators. -/
def isBlankCode (code : Nat) : Bool := isSpaceCode code || (0x1C ≤ code && code ≤ 0x1F)

def isSpace (s : Symbol) : Bool := isSpaceCode s.code

def isBlank (s : Symbol) : Bool := isBlankCode s.code

/-- A text without the blanks at its ends. -/
def strip (t : Text) : Text := trim isBlank t

end Sluice.Text
