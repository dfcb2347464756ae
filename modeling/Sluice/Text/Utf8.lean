import Sluice.Text.Quoted

/-!
# UTF-8

Bytes read as a text of characters, and the bytes of a text. Halves of surrogate pairs, needlessly
long forms and numbers beyond the last character are refused where they first show
(`Utf8.Fault`): at a byte that starts nothing, at the first byte that does not continue what was
started, or at the end of the bytes. Where bytes are kept that make no text, a half stands for each
of them; other halves cannot be written (`Utf8.unwritable?`).
-/

namespace Sluice.Text

namespace Utf8

/-- Why bytes cannot be read: the range from `start` to before `stop`, and what is wrong there. -/
inductive Fault where
  | start (at_ : Nat) (byte : UInt8)
  | continuation (at_ length : Nat) (byte : UInt8)
  | truncated (at_ length : Nat) (byte : UInt8)
  deriving DecidableEq, Repr

/-- Where the bad range starts, how long it is and what byte it starts with. -/
def Fault.range : Fault → Nat × Nat × UInt8
  | .start at_ byte => (at_, 1, byte)
  | .continuation at_ length byte => (at_, length, byte)
  | .truncated at_ length byte => (at_, length, byte)

/-- What is wrong in the bad range. -/
def Fault.reason : Fault → Text
  | .start .. => "invalid start byte"
  | .continuation .. => "invalid continuation byte"
  | .truncated .. => "unexpected end of data"

/-- The wording of a fault. -/
def Fault.message (f : Fault) : Text :=
  let (at_, length, byte) := f.range
  let range : Text :=
    if length = 1 then "byte 0x" ++ hex 2 byte.toNat ++ " in position " ++ ofNat at_
    else "bytes in position " ++ ofNat at_ ++ "-" ++ ofNat (at_ + length - 1)
  "'utf-8' codec can't decode " ++ range ++ ": " ++ f.reason

/-- What a first byte promises: its own bits, how many bytes follow, and the bounds of the first of
these. -/
def lead? (b : Nat) : Option (Nat × Nat × Nat × Nat) :=
  if b < 0x80 then some (b, 0, 0, 0)
  else if b < 0xC2 then none
  else if b < 0xE0 then some (b - 0xC0, 1, 0x80, 0xBF)
  else if b = 0xE0 then some (0, 2, 0xA0, 0xBF)
  else if b = 0xED then some (0xD, 2, 0x80, 0x9F)
  else if b < 0xF0 then some (b - 0xE0, 2, 0x80, 0xBF)
  else if b = 0xF0 then some (0, 3, 0x90, 0xBF)
  else if b < 0xF4 then some (b - 0xF0, 3, 0x80, 0xBF)
  else if b = 0xF4 then some (4, 3, 0x80, 0x8F)
  else none

/-- What has been read of a character that is not complete: where it starts and with which byte, the
bits so far, the number of bytes read and missing, and the bounds of the next one. -/
structure Pending where
  start : Nat
  byte : UInt8
  bits : Nat
  read : Nat
  missing : Nat
  lowest : Nat
  highest : Nat
  deriving Repr

/-- Reads bytes from a position on. -/
def decodeFrom : Nat → Option Pending → List UInt8 → Except Fault (List Char)
  | _, none, [] => .ok []
  | _, some p, [] => .error (.truncated p.start p.read p.byte)
  | i, none, b :: rest =>
    match lead? b.toNat with
    | none => .error (.start i b)
    | some (bits, 0, _, _) => (decodeFrom (i + 1) none rest).map (Char.ofNat bits :: ·)
    | some (bits, n + 1, lowest, highest) =>
      decodeFrom (i + 1) (some ⟨i, b, bits, 1, n + 1, lowest, highest⟩) rest
  | i, some p, b :: rest =>
    if p.lowest ≤ b.toNat ∧ b.toNat ≤ p.highest then
      let bits := p.bits * 64 + (b.toNat - 0x80)
      if p.missing ≤ 1 then (decodeFrom (i + 1) none rest).map (Char.ofNat bits :: ·)
      else
        decodeFrom (i + 1) (some ⟨p.start, p.byte, bits, p.read + 1, p.missing - 1, 0x80, 0xBF⟩)
          rest
    else .error (.continuation p.start p.read p.byte)

/-- The characters of bytes. -/
def decode (bs : List UInt8) : Except Fault (List Char) := decodeFrom 0 none bs

/-- The bytes of a character. -/
def encodeChar (c : Char) : List UInt8 :=
  let n := c.toNat
  if n < 0x80 then [n.toUInt8]
  else if n < 0x800 then [(0xC0 + n / 64).toUInt8, (0x80 + n % 64).toUInt8]
  else if n < 0x10000 then
    [(0xE0 + n / 4096).toUInt8, (0x80 + n / 64 % 64).toUInt8, (0x80 + n % 64).toUInt8]
  else
    [(0xF0 + n / 262144).toUInt8, (0x80 + n / 4096 % 64).toUInt8, (0x80 + n / 64 % 64).toUInt8,
      (0x80 + n % 64).toUInt8]

/-- The bytes of characters. -/
def encode (cs : List Char) : List UInt8 := cs.flatMap encodeChar

/-- Whether a code point can be written where a half may stand for a single byte beyond ASCII. -/
def isWritable : Symbol → Bool
  | .char _ => true
  | .half i => 0x480 ≤ i.val && i.val < 0x500

/-- The first halves that cannot be written: the position of the first one, and all from there on
that stand in a row. -/
def unwritable? (t : Text) : Option (Nat × Text) :=
  match t.dropWhile isWritable with
  | [] => none
  | bad => some (t.length - bad.length, bad.takeWhile fun s => !isWellFormed [s])

/-- The wording for halves that cannot be written. -/
def unwritableMessage (start : Nat) (halves : Text) : Text :=
  let range : Text := match halves with
    | [s] => "character '" ++ escapeCode s.code ++ "' in position " ++ ofNat start
    | _ => "characters in position " ++ ofNat start ++ "-" ++ ofNat (start + halves.length - 1)
  "'utf-8' codec can't encode " ++ range ++ ": surrogates not allowed"

end Utf8

/-- The text of bytes, if they are one. -/
def ofUtf8? (bs : List UInt8) : Option Text :=
  match Utf8.decode bs with
  | .ok cs => some (cs.map .char)
  | .error _ => none

end Sluice.Text
