/-!
# Base64

Bytes written with 64 characters, three bytes in four, and filled up with equals signs. Reading is
lenient: characters that are none of the 64 are passed over, and an equals sign that fills the last
four up ends the text.
-/

namespace Sluice.Base64

/-- The character of a number below 64. -/
def digit (n : Nat) : UInt8 :=
  if n < 26 then (65 + n).toUInt8
  else if n < 52 then (71 + n).toUInt8
  else if n < 62 then (n - 4).toUInt8
  else if n = 62 then 43
  else 47

/-- The characters of bytes. -/
def encode : List UInt8 → List UInt8
  | [] => []
  | [a] =>
    let n := a.toNat
    [digit (n / 4), digit (n % 4 * 16), 61, 61]
  | [a, b] =>
    let n := a.toNat * 256 + b.toNat
    [digit (n / 1024), digit (n / 16 % 64), digit (n % 16 * 4), 61]
  | a :: b :: c :: rest =>
    let n := a.toNat * 65536 + b.toNat * 256 + c.toNat
    digit (n / 262144) :: digit (n / 4096 % 64) :: digit (n / 64 % 64) :: digit (n % 64) ::
      encode rest

/-- The number of a character. -/
def value? (c : Nat) : Option Nat :=
  if 65 ≤ c ∧ c ≤ 90 then some (c - 65)
  else if 97 ≤ c ∧ c ≤ 122 then some (c - 71)
  else if 48 ≤ c ∧ c ≤ 57 then some (c + 4)
  else if c = 43 then some 62
  else if c = 47 then some 63
  else none

/-- The bytes of up to four numbers below 64. -/
def group : List Nat → List UInt8
  | [a, b] => [(a * 4 + b / 16).toUInt8]
  | [a, b, c] => [(a * 4 + b / 16).toUInt8, (b % 16 * 16 + c / 4).toUInt8]
  | [a, b, c, d] =>
    [(a * 4 + b / 16).toUInt8, (b % 16 * 16 + c / 4).toUInt8, (c % 4 * 64 + d).toUInt8]
  | _ => []

/-- The bytes of characters behind the numbers of a group that is not complete and `fill` equals
signs; nothing when the last group stays incomplete. -/
def decodeFrom? (open_ : List Nat) (fill : Nat) : List Nat → Option (List UInt8)
  | [] => if open_.isEmpty then some [] else none
  | c :: rest =>
    if c = 61 then
      if open_.length < 2 then decodeFrom? open_ fill rest
      else if 4 ≤ open_.length + fill + 1 then some (group open_)
      else decodeFrom? open_ (fill + 1) rest
    else match value? c with
      | none => decodeFrom? open_ fill rest
      | some n =>
        if open_.length = 3 then (decodeFrom? [] 0 rest).map (group (open_ ++ [n]) ++ ·)
        else decodeFrom? (open_ ++ [n]) 0 rest

/-- The bytes that characters stand for. -/
def decode? (cs : List Nat) : Option (List UInt8) := decodeFrom? [] 0 cs

end Sluice.Base64
