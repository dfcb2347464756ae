import Sluice.Number.Decimal
import Sluice.Proofs.Number.Exact

/-!
# Numbers in parts

Doubles and decimals are magnitudes with a sign, in parts that are powers of two or of ten. So both
are numerators of one kind (`signed`), and to write a number in other parts is to round a quotient
of magnitudes.

* `Binary64.value_of_toInt`, `Decimal.ratio?_finite`: whole parts of doubles, and the ratios that
  decimals are;
* `roundHalfEven_div_near`, `roundHalfEven_div_eq_iff`: **a number rounded to other parts is half a
  part away at most**, and the same number if and only if it is a whole number of them.
-/

namespace Sluice

/-! ## 1. Signs -/

/-- A magnitude with its sign. -/
def signed (negative : Bool) (n : ℕ) : ℤ := if negative then -n else n

/-- The sign of zero makes no difference. -/
theorem signed_of_zero {negative : Bool} {c n : ℕ} (h : c = 0 → n = 0) :
    signed (negative && c != 0) n = signed negative n := by
  by_cases hc : c = 0
  · rw [h hc]
    cases negative <;> simp [signed]
  · rw [bne_iff_ne.mpr hc, Bool.and_true]

/-- Numbers of one sign are equal if and only if their magnitudes are. -/
theorem signed_mul_eq_iff (negative : Bool) {n c : ℕ} {x y : ℚ} :
    (signed negative n : ℚ) * x = signed negative c * y ↔ (n : ℚ) * x = c * y := by
  cases negative <;> simp [signed]

/-- A number is whole if and only if its magnitude is. -/
theorem signed_isWhole_iff (negative : Bool) (n : ℕ) {x : ℚ} (hx : 0 ≤ x) :
    (∃ i : ℤ, (signed negative n : ℚ) * x = i) ↔ ∃ k : ℕ, (n : ℚ) * x = k := by
  constructor
  · rintro ⟨i, hi⟩
    refine ⟨i.natAbs, ?_⟩
    rw [Nat.cast_natAbs, Int.cast_abs, ← hi, abs_mul, abs_of_nonneg hx]
    cases negative <;> simp [signed]
  · rintro ⟨k, hk⟩
    refine ⟨signed negative k, ?_⟩
    rw [← mul_one ((signed negative k : ℤ) : ℚ), signed_mul_eq_iff, mul_one, hk]

theorem signed_mul (negative : Bool) (n k : ℕ) :
    signed negative (n * k) = signed negative n * k := by
  cases negative <;> simp [signed]

/-- Numbers of one sign are as far from each other as their magnitudes. -/
theorem abs_signed_sub (negative : Bool) (n c : ℕ) (x y : ℚ) :
    |signed negative n * x - signed negative c * y| = |n * x - c * y| := by
  cases negative
  · rfl
  · have hneg : (signed true n * x - signed true c * y : ℚ) = -(n * x - c * y) := by
      simp only [signed, if_true]
      push_cast
      ring
    rw [hneg, abs_neg]

/-! ## 2. Doubles and decimals -/

namespace Binary64

theorem scaled_eq_signed (x : Binary64) : x.scaled = signed x.negative x.units := rfl

/-- A double with nothing left over is its whole part. -/
theorem value_of_toInt {x : Binary64} {n : ℤ} (h : x.toInt = (n, true)) : x.value = n := by
  unfold toInt at h
  unfold value
  rw [scaled_eq_signed]
  generalize 1074 = places at h ⊢
  simp only [Prod.mk.injEq, beq_iff_eq, Nat.pow_eq] at h
  obtain ⟨rfl, hrest⟩ := h
  obtain ⟨whole, hwhole⟩ := Nat.dvd_of_mod_eq_zero hrest
  have hpos : (2 : ℚ) ^ places ≠ 0 := by positivity
  rw [hwhole, Nat.mul_div_cancel_left _ (by positivity), mul_comm, signed_mul,
    div_eq_iff (by exact_mod_cast hpos)]
  push_cast [signed]
  rfl

end Binary64

/-- A finite decimal is a ratio with its value. -/
theorem Decimal.ratio?_finite (negative : Bool) (c : ℕ) (e : ℤ) :
    ∃ n k, (Decimal.finite negative c e).ratio? = some (n, k) ∧ k ≠ 0 ∧
      (n : ℚ) / k = signed negative c * 10 ^ e := by
  cases e with
  | ofNat k =>
    refine ⟨signed negative c * (10 ^ k : ℕ), 1, rfl, Nat.one_ne_zero, ?_⟩
    rw [Int.ofNat_eq_natCast, zpow_natCast, Nat.cast_one, div_one]
    push_cast
    rfl
  | negSucc k =>
    refine ⟨signed negative c, 10 ^ (k + 1), rfl, pow_ne_zero _ (by decide), ?_⟩
    rw [zpow_negSucc, div_eq_mul_inv]
    push_cast
    rfl

/-! ## 3. Rounding -/

namespace Number

/-- Rounding a quotient moves it by half a unit at most. -/
theorem roundHalfEven_near (n : ℕ) {d : ℕ} (hd : 0 < d) :
    |(roundHalfEven n d : ℚ) - n / d| ≤ 1 / 2 := by
  have hd' : (0 : ℚ) < d := by exact_mod_cast hd
  have hle : (2 * (d * roundHalfEven n d) : ℚ) ≤ 2 * n + d := by
    exact_mod_cast roundHalfEven_le n d
  have hge : (2 * n : ℚ) ≤ 2 * (d * roundHalfEven n d) + d := by
    exact_mod_cast le_roundHalfEven n d hd
  have hsub : (roundHalfEven n d : ℚ) - n / d =
      (d * roundHalfEven n d - n) / d := by
    field_simp
  rw [hsub, abs_le, le_div_iff₀ hd', div_le_iff₀ hd']
  constructor <;> linarith

/-- A quotient is its own rounding if and only if it is a whole number. -/
theorem roundHalfEven_eq_iff (n : ℕ) {d : ℕ} (hd : 0 < d) :
    (roundHalfEven n d : ℚ) = n / d ↔ ∃ k : ℕ, (n : ℚ) / d = k := by
  constructor
  · intro h
    exact ⟨_, h.symm⟩
  · rintro ⟨k, hk⟩
    have hn : n = k * d := by
      rw [div_eq_iff (by exact_mod_cast hd.ne')] at hk
      exact_mod_cast hk
    rw [hk, hn, roundHalfEven_mul k d hd]

section Scaled

variable (m : ℕ) {p d : ℕ}

/-- A magnitude in units of so many parts is half a part away at most. -/
theorem roundHalfEven_div_near (hp : 0 < p) (hd : 0 < d) :
    |(roundHalfEven (m * p) d : ℚ) / p - m / d| ≤ 1 / (2 * p) := by
  have hp' : (0 : ℚ) < p := by exact_mod_cast hp
  have hnear := roundHalfEven_near (m * p) hd
  have hsub : (roundHalfEven (m * p) d : ℚ) / p - m / d =
      (roundHalfEven (m * p) d - (m * p : ℕ) / d) / p := by
    push_cast
    field_simp
  rw [hsub, abs_div, abs_of_pos hp', div_le_iff₀ hp']
  refine hnear.trans (le_of_eq ?_)
  field_simp

/-- It is the same magnitude if and only if it is a whole number of parts. -/
theorem roundHalfEven_div_eq_iff (hp : 0 < p) (hd : 0 < d) :
    (roundHalfEven (m * p) d : ℚ) / p = m / d ↔ ∃ k : ℕ, (m : ℚ) / d * p = k := by
  have hp' : (p : ℚ) ≠ 0 := by exact_mod_cast hp.ne'
  have hparts : ((m * p : ℕ) : ℚ) / d = m / d * p := by
    push_cast
    ring
  rw [div_eq_iff hp', ← hparts]
  exact roundHalfEven_eq_iff (m * p) hd

end Scaled

end Number

end Sluice
