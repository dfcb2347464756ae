import Sluice.Number.Binary64
import Sluice.Text

/-!
# The shortest decimal text of a double

A decimal reads back as a double when it lies between the midpoints to the double's neighbours,
the midpoints themselves counting when the rank is even. For one, two, … seventeen digits the two
points of that decimal grid next to the value are tried; the first grid with a hit wins, and of two
hits the nearer one (`shortest`). Which exponents are written out, and how the others look, is data
of the text's use (`FloatNotation`).
-/

namespace Sluice.Number

/-- The decimal `digits · 10 ^ exponent`. -/
structure Digits where
  digits : Nat
  exponent : Int
  deriving DecidableEq, Repr

namespace Digits

/-- Compares `d · 10 ^ e` with `n` half-units of `2 ^ -1075`. -/
private def cmp (d : Nat) (e : Int) (n : Nat) : Ordering :=
  match e with
  | .ofNat k => compare (d * Nat.pow 10 k * Nat.pow 2 1075) n
  | .negSucc k => compare (d * Nat.pow 2 1075) (n * Nat.pow 10 (k + 1))

/-- The distance of `d · 10 ^ e` from `n` half-units, in units that depend on `e` alone. -/
private def dist (d : Nat) (e : Int) (n : Nat) : Nat :=
  let (a, b) := match e with
    | .ofNat k => (d * Nat.pow 10 k * Nat.pow 2 1075, n)
    | .negSucc k => (d * Nat.pow 2 1075, n * Nat.pow 10 (k + 1))
  (a - b) + (b - a)

/-- The whole part of `n` half-units divided by `10 ^ e`. -/
private def quotient (n : Nat) (e : Int) : Nat :=
  match e with
  | .ofNat k => n / (Nat.pow 10 k * Nat.pow 2 1075)
  | .negSucc k => n * Nat.pow 10 (k + 1) / Nat.pow 2 1075

/-- The same decimal without trailing zeros. -/
def strip (fuel : Nat) (d : Digits) : Digits :=
  match fuel with
  | 0 => d
  | fuel + 1 =>
    if d.digits ≠ 0 ∧ d.digits % 10 = 0 then strip fuel ⟨d.digits / 10, d.exponent + 1⟩ else d

/-- The exponent of the leading digit of `n` half-units. -/
private def topExponent (n : Nat) : Int :=
  let estimate : Int := Int.fdiv (((Nat.log2 n : Nat) - 1075 : Int) * 30103) 100000
  if cmp 1 (estimate + 1) n != .gt then estimate + 1
  else if cmp 1 estimate n == .gt then estimate - 1
  else estimate

/-- The hit of the grid with the given exponent, if it has one. -/
private def onGrid (low value high : Nat) (closed : Bool) (e : Int) : Option Digits :=
  let d := quotient value e
  let above := cmp d e low
  let below := cmp (d + 1) e high
  let okDown := d ≠ 0 && (above == .gt || (closed && above == .eq))
  let okUp := below == .lt || (closed && below == .eq)
  if okDown && okUp then
    (if dist d e value < dist (d + 1) e value ||
        (dist d e value == dist (d + 1) e value && d % 2 == 0)
      then some ⟨d, e⟩ else some ⟨d + 1, e⟩)
  else if okDown then some ⟨d, e⟩
  else if okUp then some ⟨d + 1, e⟩
  else none

/-- The first hit on the grids with the given exponent and then finer ones. -/
private def search (low value high : Nat) (closed : Bool) : Nat → Int → Digits
  | 0, e => ⟨quotient value e, e⟩
  | fuel + 1, e => (onGrid low value high closed e).getD (search low value high closed fuel (e - 1))

/-- The fewest digits between two bounds, and of those the nearest to a value between them; all
three count half-units, and `closed` says whether the bounds themselves count. -/
def between (low value high : Nat) (closed : Bool) : Digits :=
  strip 20 (search low value high closed 17 (topExponent value))

/-- The fewest digits that read back as the finite rank, and of those the nearest. -/
def shortest (rank : Nat) : Digits :=
  if rank = 0 then ⟨0, 0⟩
  else
    let u := Binary64.unitsOfRank rank
    between (Binary64.unitsOfRank (rank - 1) + u) (2 * u) (u + Binary64.unitsOfRank (rank + 1))
      (rank % 2 == 0)

/-- The fewest digits that read back as a single-precision number of so many units, and of those the
nearest. -/
def shortestSingle (units : Nat) : Digits :=
  if units = 0 then ⟨0, 0⟩
  else
    let step := Binary64.singleStep units
    let stepBelow := if units = Nat.pow 2 23 * step ∧ Nat.pow 2 925 < step then step / 2 else step
    between (2 * units - stepBelow) (2 * units) (2 * units + step) (units / step % 2 == 0)

end Digits

/-- How a use writes doubles: which leading exponents are written out in full, what follows a whole
number, how many digits an exponent has at least, and the names of infinity and of what is not a
number. -/
structure FloatNotation where
  lowest : Int
  highest : Int
  wholeSuffix : Text
  exponentDigits : Nat
  infinityName : Text
  nanName : Text

namespace FloatNotation

/-- Digits and the exponent of the first of them, written in full or with an exponent. -/
def writeDigits (style : FloatNotation) (ds : Text) (top : Int) : Text :=
  if style.lowest ≤ top ∧ top ≤ style.highest then
    if top < 0 then
      "0." ++ Text.zeros (-top - 1).toNat ++ ds
    else
      let whole := top.toNat + 1
      if ds.length ≤ whole then
        ds ++ Text.zeros (whole - ds.length) ++ style.wholeSuffix
      else ds.take whole ++ .char '.' :: ds.drop whole
  else
    let mantissa := match ds with
      | [] => []
      | [d] => [d]
      | d :: rest => d :: .char '.' :: rest
    let sign : Symbol := if top < 0 then .char '-' else .char '+'
    mantissa ++ .char 'e' :: sign :: Text.padZeros style.exponentDigits (Text.ofNat top.natAbs)

/-- The text of a number whose magnitude has the given digits when it is finite. -/
def writeAs (style : FloatNotation) (x : Binary64) (digits : Digits) : Text :=
  if x.isNaN then style.nanName
  else
    let body :=
      if x.isInfinite then style.infinityName
      else
        let ds := Text.ofNat digits.digits
        writeDigits style ds (digits.exponent + ds.length - 1)
    if x.negative then .char '-' :: body else body

/-- The text of a double. -/
def write (style : FloatNotation) (x : Binary64) : Text :=
  style.writeAs x (if x.isFinite then Digits.shortest x.rank.val else ⟨0, 0⟩)

/-- The text of a single-precision number. -/
def writeSingle (style : FloatNotation) (x : Binary64) : Text :=
  style.writeAs x (if x.isFinite then Digits.shortestSingle x.units else ⟨0, 0⟩)

end FloatNotation

/-- Doubles as they are shown to people: written out from `10^-4` to below `10^16`, whole ones with
`.0`, exponents with a sign and two digits. -/
def shownFloat : FloatNotation := ⟨-4, 15, ".0", 2, "inf", "nan"⟩

/-- A double with a fixed number of places, a half going to the even neighbour. -/
def writeFixed (places : Nat) (x : Binary64) : Text :=
  if x.isNaN then "nan"
  else
    let body : Text :=
      if x.isInfinite then "inf"
      else
        let scaled := Text.ofNat (roundHalfEven (x.units * Nat.pow 10 places) (Nat.pow 2 1074))
        let padded := Text.padZeros (places + 1) scaled
        let whole := padded.take (padded.length - places)
        if places = 0 then whole else whole ++ .char '.' :: padded.drop (padded.length - places)
    if x.negative then .char '-' :: body else body

end Sluice.Number
