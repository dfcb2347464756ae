import Sluice.Number.Rounding

/-!
# Doubles

A double is a sign and a rank: the place of its magnitude in the list of all magnitudes, from zero
over the finite ones to infinity, with what is not a number behind. The rank is the lower 63 bits
of the standard encoding, so neighbours in rank are neighbours in value.

Every finite magnitude is a whole number of units of `2^-1074` (`units`), so conversions and
arithmetic are done on whole numbers and rounded once, to nearest and to even (`ofQuotient`).
No machine arithmetic is involved. Main facts:

* `units_small`: up to `2^53` the rank is the number of units;
* `roundRank_units`: a number of units that some rank has is rounded to that rank.
-/

namespace Sluice

/-- A double: its sign and the rank of its magnitude. -/
structure Binary64 where
  negative : Bool
  rank : Fin (Nat.pow 2 63)
  deriving DecidableEq, Repr, Inhabited

namespace Binary64

/-! ## 1. Magnitudes -/

/-- The rank of infinity; smaller ranks are finite, larger ones are not numbers. -/
def infinityRank : Nat := 2047 * Nat.pow 2 52

/-- The magnitude of a finite rank in units of `2^-1074`. -/
def unitsOfRank (rank : Nat) : Nat :=
  if rank / Nat.pow 2 52 = 0 then rank
  else (rank % Nat.pow 2 52 + Nat.pow 2 52) * Nat.pow 2 (rank / Nat.pow 2 52 - 1)

/-- The rank nearest to `num / den` units, the even one of two equally near. -/
def roundRank (num den : Nat) : Nat :=
  let shift := Nat.log2 (num / den) - 52
  shift * Nat.pow 2 52 + Number.roundHalfEven num (den * Nat.pow 2 shift)

/-- The rank nearest to `num / den` units, the larger one of two equally near. -/
def roundRankUp (num den : Nat) : Nat :=
  let shift := Nat.log2 (num / den) - 52
  shift * Nat.pow 2 52 + Number.roundHalfUp num (den * Nat.pow 2 shift)

/-- Up to `2^53` the rank is the number of units. -/
theorem units_small {rank : Nat} (h : rank < Nat.pow 2 53) : unitsOfRank rank = rank := by
  simp only [unitsOfRank, Nat.pow_eq] at h ⊢
  split
  · rfl
  · next h0 =>
    have h1 : rank / 2 ^ 52 = 1 := by omega
    rw [h1]; omega

/-- Rounding a number of units that some rank has gives that rank. -/
theorem roundRank_units (rank : Nat) : roundRank (unitsOfRank rank) 1 = rank := by
  simp only [roundRank, unitsOfRank, Nat.pow_eq, Nat.div_one, Nat.one_mul]
  split
  · next h =>
    have hlog : Nat.log2 rank - 52 = 0 := by
      by_cases h0 : rank = 0
      · simp [h0]
      · have : Nat.log2 rank < 52 := (Nat.log2_lt h0).2 (by omega)
        omega
    have hround := Number.roundHalfEven_mul rank 1 (by decide)
    simp only [hlog, Nat.pow_zero, Nat.zero_mul, Nat.zero_add] at hround ⊢
    simpa using hround
  · next h =>
    obtain ⟨e, he⟩ : ∃ e, rank / 2 ^ 52 = e + 1 := ⟨rank / 2 ^ 52 - 1, by omega⟩
    have hpos : 0 < 2 ^ e := Nat.two_pow_pos e
    have hlow : 2 ^ (52 + e) ≤ (rank % 2 ^ 52 + 2 ^ 52) * 2 ^ e := by
      rw [Nat.pow_add]; exact Nat.mul_le_mul_right _ (by omega)
    have hhigh : (rank % 2 ^ 52 + 2 ^ 52) * 2 ^ e < 2 ^ (52 + e + 1) := by
      rw [show 52 + e + 1 = 53 + e by omega, Nat.pow_add]
      exact Nat.mul_lt_mul_of_pos_right (by omega) hpos
    have hlog : Nat.log2 ((rank % 2 ^ 52 + 2 ^ 52) * 2 ^ e) = 52 + e :=
      (Nat.log2_eq_iff (by have := Nat.two_pow_pos (52 + e); omega)).2 ⟨hlow, hhigh⟩
    rw [he, Nat.add_sub_cancel, hlog, Nat.add_sub_cancel_left, Number.roundHalfEven_mul _ _ hpos]
    omega

/-! ## 2. Reading a double -/

def isNaN (x : Binary64) : Bool := infinityRank < x.rank.val

def isInfinite (x : Binary64) : Bool := x.rank.val == infinityRank

def isFinite (x : Binary64) : Bool := x.rank.val < infinityRank

def isZero (x : Binary64) : Bool := x.rank.val == 0

/-- The magnitude of a finite double in units of `2^-1074`. -/
def units (x : Binary64) : Nat := unitsOfRank x.rank.val

/-- A finite double in units of `2^-1074`, with its sign. -/
def scaled (x : Binary64) : Int := if x.negative then -(x.units : Int) else x.units

/-- The place of a number in the order of numbers; both zeros have place 0. -/
def place (x : Binary64) : Int := if x.negative then -(x.rank.val : Int) else x.rank.val

/-- The 64 bits of the standard encoding as a number. -/
def toBits (x : Binary64) : Nat := (if x.negative then Nat.pow 2 63 else 0) + x.rank.val

/-- The double of 64 bits. -/
def ofBits (bits : Nat) : Binary64 :=
  ⟨bits / Nat.pow 2 63 % 2 == 1, ⟨bits % Nat.pow 2 63, Nat.mod_lt _ (by decide)⟩⟩

/-! ## 3. Making a double -/

/-- The double with a given sign and rank, infinity where no finite rank reaches. -/
def ofRank (negative : Bool) (rank : Nat) : Binary64 :=
  if h : rank < infinityRank then ⟨negative, ⟨rank, Nat.lt_trans h (by decide)⟩⟩
  else ⟨negative, ⟨infinityRank, by decide⟩⟩

def zero : Binary64 := ⟨false, ⟨0, by decide⟩⟩

def infinity (negative : Bool) : Binary64 := ⟨negative, ⟨infinityRank, by decide⟩⟩

def nan : Binary64 := ⟨false, ⟨infinityRank + Nat.pow 2 51, by decide⟩⟩

/-- The double nearest to `± num / den` units; infinity beyond the largest. -/
def ofQuotient (negative : Bool) (num den : Nat) : Binary64 := ofRank negative (roundRank num den)

/-- The double nearest to the ratio of two whole numbers. -/
def ofRatio (num : Int) (den : Nat) : Binary64 :=
  ofQuotient (num < 0) (num.natAbs * Nat.pow 2 1074) den

/-- The double nearest to a whole number. -/
def ofInt (n : Int) : Binary64 := ofRatio n 1

/-- The double nearest to `± coefficient · 10 ^ exponent`. Exponents far outside the range are
decided by their size alone. -/
def ofDecimal (negative : Bool) (coefficient : Nat) (exponent : Int) : Binary64 :=
  let top : Int := ((Nat.log2 coefficient / 4 : Nat) : Int) + exponent
  let reach : Int := ((Nat.log2 coefficient / 3 : Nat) : Int) + exponent
  if coefficient = 0 ∨ reach < -400 then ⟨negative, ⟨0, by decide⟩⟩
  else if 400 < top then infinity negative
  else match exponent with
    | .ofNat e => ofQuotient negative (coefficient * Nat.pow 10 e * Nat.pow 2 1074) 1
    | .negSucc e => ofQuotient negative (coefficient * Nat.pow 2 1074) (Nat.pow 10 (e + 1))

/-- Whether a finite double is exactly the ratio of two whole numbers. -/
def isRatio (x : Binary64) (num : Int) (den : Nat) : Bool :=
  x.isFinite && x.scaled * den == num * Nat.pow 2 1074

/-- The whole part of a finite double, towards zero, and whether nothing is left over. -/
def toInt (x : Binary64) : Int × Bool :=
  let whole : Nat := x.units / Nat.pow 2 1074
  (if x.negative then -(whole : Int) else (whole : Int), x.units % Nat.pow 2 1074 == 0)

/-! ## 4. Arithmetic, rounded once -/

def neg (x : Binary64) : Binary64 := ⟨!x.negative, x.rank⟩

def add (x y : Binary64) : Binary64 :=
  if x.isNaN || y.isNaN then nan
  else if x.isInfinite then (if y.isInfinite && x.negative != y.negative then nan else x)
  else if y.isInfinite then y
  else
    let sum := x.scaled + y.scaled
    if sum = 0 then ⟨x.negative && y.negative, ⟨0, by decide⟩⟩
    else ofQuotient (sum < 0) sum.natAbs 1

def sub (x y : Binary64) : Binary64 := add x (neg y)

def mul (x y : Binary64) : Binary64 :=
  let negative := x.negative != y.negative
  if x.isNaN || y.isNaN then nan
  else if x.isInfinite || y.isInfinite then
    (if x.isZero || y.isZero then nan else infinity negative)
  else ofQuotient negative (x.units * y.units) (Nat.pow 2 1074)

/-- The quotient; by zero it is infinite, or not a number. -/
def div (x y : Binary64) : Binary64 :=
  let negative := x.negative != y.negative
  if x.isNaN || y.isNaN then nan
  else if x.isInfinite then (if y.isInfinite then nan else infinity negative)
  else if y.isInfinite then ⟨negative, ⟨0, by decide⟩⟩
  else if y.isZero then (if x.isZero then nan else infinity negative)
  else ofQuotient negative (x.units * Nat.pow 2 1074) y.units

/-- A number at least 1 raised to a whole power, or `none` if the power of a finite number lies
beyond the largest double. The nearest double is taken, and of two equally near ones the larger. No
standard fixes the last bit of a power: a library for it may come out at the next double to either
side, so what is stated about powers is whether there is one and what is made of it, not its last
bit. -/
def power? (x : Binary64) (n : Int) : Option Binary64 :=
  let u := x.units
  if x.isNaN then some (if n = 0 then ofInt 1 else x)
  else if x.isInfinite then some (if n = 0 then ofInt 1 else if n < 0 then zero else x)
  else match n with
  | .ofNat k =>
    if 1100 < (Nat.log2 u - 1074) * k then none
    else
      let y := ofRank false (roundRankUp (Nat.pow u k * Nat.pow 2 1074) (Nat.pow 2 (1074 * k)))
      if y.isFinite then some y else none
  | .negSucc k =>
    if 1100 < (Nat.log2 u - 1074) * (k + 1) then some zero
    else some (ofQuotient false (Nat.pow 2 (1074 * (k + 1)) * Nat.pow 2 1074) (Nat.pow u (k + 1)))

instance : Add Binary64 := ⟨add⟩
instance : Sub Binary64 := ⟨sub⟩
instance : Mul Binary64 := ⟨mul⟩
instance : Div Binary64 := ⟨div⟩
instance : Neg Binary64 := ⟨neg⟩

/-! ## 5. Order and equality of numbers -/

/-- Numeric `<`; false when either side is not a number. -/
def lt (x y : Binary64) : Bool := !x.isNaN && !y.isNaN && x.place < y.place

/-- Numeric `≤`; false when either side is not a number. -/
def le (x y : Binary64) : Bool := !x.isNaN && !y.isNaN && x.place ≤ y.place

/-- Numeric equality: the zeros are equal, and what is not a number equals nothing. -/
def numEq (x y : Binary64) : Bool := !x.isNaN && !y.isNaN && x.place == y.place

/-- The first of two numbers unless the second is smaller. -/
def least (x y : Binary64) : Binary64 := if lt y x then y else x

/-! ## 6. Single precision -/

/-- The distance between single-precision numbers next to so many units: 24 significant bits, none
below `2^-149`. -/
def singleStep (units : Nat) : Nat := Nat.pow 2 (max 925 (Nat.log2 units - 23))

/-- Whether a double is a single-precision number, infinity and what is not a number included:
at most 24 significant bits, none below `2^-149`, and less than `2^128`. -/
def fitsBinary32 (x : Binary64) : Bool :=
  !x.isFinite || x.units == 0 ||
    (x.units < Nat.pow 2 (1074 + 128) && x.units % singleStep x.units == 0)

/-- The single-precision number nearest to a double. -/
def toSingle (x : Binary64) : Binary64 :=
  if !x.isFinite then x
  else
    let step := singleStep x.units
    let units := Number.roundHalfEven x.units step * step
    if Nat.pow 2 (1074 + 128) ≤ units then infinity x.negative else ofQuotient x.negative units 1

end Binary64

end Sluice
