import Sluice.Text

/-!
# Decimals

A decimal is a sign, a coefficient and a power of ten, so that `1.50` and `1.5` are different
decimals of the same value; beside these there are infinities and signals of a missing result. Their
text (`toText`) keeps the number of places: it is written out while the exponent is not positive and
the first digit is at most six places behind the point, and with an exponent otherwise.
-/

namespace Sluice

/-- A decimal number with its number of places. -/
inductive Decimal where
  | finite (negative : Bool) (coefficient : Nat) (exponent : Int)
  | infinite (negative : Bool)
  | nan (signaling negative : Bool) (payload : Nat)
  deriving DecidableEq, Repr

namespace Decimal

def isFinite : Decimal → Bool
  | .finite .. => true
  | _ => false

/-- A whole number as a decimal without places. -/
def ofInt (n : Int) : Decimal := .finite (n < 0) n.natAbs 0

/-- A finite decimal as a numerator over a power of ten. -/
def ratio? : Decimal → Option (Int × Nat)
  | .finite negative c e =>
    let signed : Int := if negative then -(c : Int) else c
    match e with
    | .ofNat k => some (signed * (Nat.pow 10 k : Nat), 1)
    | .negSucc k => some (signed, Nat.pow 10 (k + 1))
  | _ => none

/-! ## 1. Writing -/

private def signText (negative : Bool) : Text := if negative then "-" else []

/-- Digits with the point after the first `places` of them, zeros filling both sides. -/
private def placePoint (ds : Text) (place : Int) : Text :=
  if place ≤ 0 then "0." ++ Text.zeros (-place).toNat ++ ds
  else if (ds.length : Int) ≤ place then
    ds ++ Text.zeros (place.toNat - ds.length)
  else ds.take place.toNat ++ .char '.' :: ds.drop place.toNat

/-- The text of a decimal. -/
def toText : Decimal → Text
  | .finite negative c e =>
    let ds := Text.ofNat c
    let left := e + ds.length
    let place := if e ≤ 0 ∧ -6 < left then left else 1
    let exponent := left - place
    let tail : Text :=
      if exponent = 0 then []
      else
        .char 'E' ::
          (if exponent < 0 then Text.ofInt exponent else .char '+' :: Text.ofInt exponent)
    signText negative ++ placePoint ds place ++ tail
  | .infinite negative => signText negative ++ "Infinity"
  | .nan signaling negative payload =>
    signText negative ++ ((if signaling then "sNaN" else "NaN") : String) ++
      (if payload = 0 then [] else Text.ofNat payload)

/-! ## 2. Reading -/

/-- The value of a list of decimal digits, if all are. -/
def digitsValue? (cs : List Char) : Option Nat :=
  if cs.all Char.isDigit then some (cs.foldl (fun n c => n * 10 + (c.toNat - 48)) 0) else none

private def stripSign : List Char → Bool × List Char
  | '-' :: rest => (true, rest)
  | '+' :: rest => (false, rest)
  | cs => (false, cs)

private def exponentValue? (cs : List Char) : Option Int :=
  let (negative, rest) := stripSign cs
  if rest.isEmpty then none
  else (digitsValue? rest).map fun n => if negative then -(n : Int) else n

private def named? (negative : Bool) (cs : List Char) : Option Decimal :=
  let lower := cs.map Char.toLower
  if lower = "inf".toList ∨ lower = "infinity".toList then some (.infinite negative)
  else if lower.take 3 = "nan".toList then
    (digitsValue? (cs.drop 3)).map (.nan false negative)
  else if lower.take 4 = "snan".toList then
    (digitsValue? (cs.drop 4)).map (.nan true negative)
  else none

/-- Reads digits with at most one point and an optional exponent, or a name. -/
def ofChars? (cs : List Char) : Option Decimal :=
  let (negative, body) := stripSign cs
  let mantissa := body.takeWhile fun c => c ≠ 'e' ∧ c ≠ 'E'
  let tail := body.drop mantissa.length
  let whole := mantissa.takeWhile (· ≠ '.')
  let fraction := (mantissa.drop whole.length).drop 1
  let numeric : Option Decimal := do
    if whole.isEmpty ∧ fraction.isEmpty then none
    let c ← digitsValue? (whole ++ fraction)
    let e ← match tail with
      | [] => some 0
      | _ :: rest => exponentValue? rest
    some (.finite negative c (e - fraction.length))
  numeric.or (named? negative body)

end Decimal

end Sluice
