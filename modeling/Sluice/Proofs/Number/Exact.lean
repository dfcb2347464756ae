import Sluice.Number.Binary64
import Mathlib.Algebra.Order.Field.Basic
import Mathlib.Algebra.Order.Ring.Rat
import Mathlib.Tactic.FieldSimp
import Mathlib.Tactic.Linarith
import Mathlib.Tactic.Ring

/-!
# Which numbers are doubles

A binary format holds the whole multiples `m * 2 ^ e` of powers of two, `m` having a limited number
of bits and `e` lying in a limited range (`IsBinary`). Small exponents need not use all bits, so the
numbers next to zero are included.

* `Binary64.value`: the exact value of a finite double;
* `Binary64.isDouble_iff`: **the values of finite doubles are the numbers with 53 bits**;
* `Binary64.fitsBinary32_iff`: single precision is recognized by its 24 bits;
* `Binary64.isRatio_ofRatio_iff`: **rounding a ratio loses nothing if and only if the ratio is the
  value of a double**.
-/

namespace Sluice

/-- The numbers of a binary format: so many bits, and exponents from `least` to `greatest`. -/
def IsBinary (bits : ℕ) (least greatest : ℤ) (q : ℚ) : Prop :=
  ∃ m e : ℤ, |m| < 2 ^ bits ∧ least ≤ e ∧ e ≤ greatest ∧ q = m * 2 ^ e

/-- The finite numbers of double precision. -/
def IsDouble (q : ℚ) : Prop := IsBinary 53 (-1074) 971 q

/-- The finite numbers of single precision. -/
def IsSingle (q : ℚ) : Prop := IsBinary 24 (-149) 104 q

/-- Whole numbers up to `2 ^ 53` are numbers of double precision. -/
theorem isDouble_of_le {n : ℤ} (h : |n| ≤ 2 ^ 53) : IsDouble n := by
  rcases h.lt_or_eq with hlt | heq
  · exact ⟨n, 0, hlt, by norm_num, by norm_num, by rw [zpow_zero, mul_one]⟩
  · rcases (abs_eq (by norm_num)).mp heq with rfl | rfl
    · exact ⟨2 ^ 52, 1, by norm_num, by norm_num, by norm_num, by norm_num⟩
    · exact ⟨-2 ^ 52, 1, by norm_num, by norm_num, by norm_num, by norm_num⟩

/-! ## 1. Whole numbers of units -/

/-- Whole numbers with so many bits, behind which come at least `low` and at most `high` zeros. -/
def IsShifted (bits low high n : ℕ) : Prop :=
  ∃ m k : ℕ, m < 2 ^ bits ∧ low ≤ k ∧ k ≤ high ∧ n = m * 2 ^ k

theorem isShifted_zero {bits low high : ℕ} (h : low ≤ high) : IsShifted bits low high 0 :=
  ⟨0, low, by positivity, le_rfl, h, (zero_mul (2 ^ low)).symm⟩

theorem div_eq_iff_of_units {s m : ℤ} {k places : ℕ} :
    (s : ℚ) / 2 ^ places = m * 2 ^ ((k : ℤ) - places) ↔ s = m * 2 ^ k := by
  have hpos : (2 : ℚ) ^ places ≠ 0 := by positivity
  rw [zpow_sub₀ two_ne_zero, zpow_natCast, zpow_natCast, ← mul_div_assoc, div_left_inj' hpos]
  exact_mod_cast Iff.rfl

/-- **A number of units is in a format if and only if its magnitude has few enough bits.** -/
theorem isBinary_div_iff {bits low high places : ℕ} {s : ℤ} :
    IsBinary bits ((low : ℤ) - places) ((high : ℤ) - places) (s / 2 ^ places) ↔
      IsShifted bits low high s.natAbs := by
  constructor
  · rintro ⟨m, e, hm, hlow, hhigh, hq⟩
    obtain ⟨k, hk⟩ : ∃ k : ℕ, e = (k : ℤ) - places :=
      ⟨(e + places).toNat, by omega⟩
    subst hk
    have hs : s = m * 2 ^ k := div_eq_iff_of_units.mp hq
    refine ⟨m.natAbs, k, ?_, by omega, by omega, ?_⟩
    · rw [Int.abs_eq_natAbs] at hm
      exact_mod_cast hm
    · rw [hs, Int.natAbs_mul, Int.natAbs_pow]
      rfl
  · rintro ⟨m, k, hm, hlow, hhigh, hs⟩
    have hm' : |(m : ℤ)| < 2 ^ bits := by
      rw [Nat.abs_cast]
      exact_mod_cast hm
    have habs : (s.natAbs : ℤ) = m * 2 ^ k := by
      rw [hs]
      push_cast
      rfl
    rcases Int.natAbs_eq s with hsign | hsign
    · refine ⟨m, (k : ℤ) - places, hm', by omega, by omega, div_eq_iff_of_units.mpr ?_⟩
      rw [hsign, habs]
    · refine ⟨-m, (k : ℤ) - places, by rwa [abs_neg], by omega, by omega,
        div_eq_iff_of_units.mpr ?_⟩
      rw [hsign, habs, neg_mul]

namespace Binary64

/-! ## 2. Ranks -/

theorem lt_infinityRank_iff {rank : ℕ} : rank < infinityRank ↔ rank / 2 ^ 52 ≤ 2046 := by
  unfold infinityRank
  simp only [Nat.pow_eq]
  omega

theorem unitsOfRank_eq_shifted {rank : ℕ} (h : rank < infinityRank) :
    IsShifted 53 0 2045 (unitsOfRank rank) := by
  have hrank := lt_infinityRank_iff.mp h
  unfold unitsOfRank
  simp only [Nat.pow_eq]
  split
  · next hsmall => exact ⟨rank, 0, by omega, le_rfl, by omega, by rw [pow_zero, mul_one]⟩
  · exact ⟨rank % 2 ^ 52 + 2 ^ 52, rank / 2 ^ 52 - 1, by omega, by omega, by omega, rfl⟩

/-- **Every number with 53 bits has a rank.** A number that does not use all of them is shifted to
the left until it does, or until there are no zeros left behind it. -/
theorem exists_rank : ∀ (k m : ℕ), m < 2 ^ 53 → k ≤ 2045 →
    ∃ rank, rank < infinityRank ∧ unitsOfRank rank = m * 2 ^ k
  | 0, m, hm, _ => by
    refine ⟨m, lt_infinityRank_iff.mpr (by omega), ?_⟩
    rw [units_small hm, pow_zero, mul_one]
  | k + 1, m, hm, hk => by
    by_cases hshort : m < 2 ^ 52
    · obtain ⟨rank, hrank, hunits⟩ := exists_rank k (2 * m) (by omega) (by omega)
      refine ⟨rank, hrank, ?_⟩
      rw [hunits, pow_succ]
      ring
    · have hdiv : ((k + 2) * 2 ^ 52 + (m - 2 ^ 52)) / 2 ^ 52 = k + 2 := by omega
      have hmod : ((k + 2) * 2 ^ 52 + (m - 2 ^ 52)) % 2 ^ 52 = m - 2 ^ 52 := by omega
      refine ⟨(k + 2) * 2 ^ 52 + (m - 2 ^ 52), lt_infinityRank_iff.mpr (by omega), ?_⟩
      unfold unitsOfRank
      simp only [Nat.pow_eq]
      rw [hdiv, hmod, if_neg (by omega)]
      have hm' : m - 2 ^ 52 + 2 ^ 52 = m := by omega
      rw [hm']
      rfl

/-- **The magnitudes of finite doubles are the numbers of units with 53 bits.** -/
theorem exists_rank_iff {n : ℕ} :
    (∃ rank, rank < infinityRank ∧ unitsOfRank rank = n) ↔ IsShifted 53 0 2045 n := by
  constructor
  · rintro ⟨rank, hrank, rfl⟩
    exact unitsOfRank_eq_shifted hrank
  · rintro ⟨m, k, hm, -, hk, rfl⟩
    exact exists_rank k m hm hk

/-- Rounding a quotient does not depend on how it is written. -/
theorem roundRank_mul {n d : ℕ} (hd : 0 < d) : roundRank (n * d) d = roundRank n 1 := by
  have hround : ∀ p, Number.roundHalfEven (n * d) (d * p) = Number.roundHalfEven n (1 * p) := by
    intro p
    unfold Number.roundHalfEven
    rw [mul_comm n d, Nat.mul_div_mul_left n p hd, Nat.mul_mod_mul_left, one_mul]
    dsimp only
    have hlow : 2 * (d * (n % p)) < d * p ↔ 2 * (n % p) < p := by
      rw [Nat.mul_left_comm]
      exact Nat.mul_lt_mul_left hd
    have hhigh : d * p < 2 * (d * (n % p)) ↔ p < 2 * (n % p) := by
      rw [Nat.mul_left_comm]
      exact Nat.mul_lt_mul_left hd
    simp only [hlow, hhigh]
  unfold roundRank
  rw [Nat.mul_div_cancel n hd, Nat.div_one]
  dsimp only
  rw [hround]

/-! ## 3. Values -/

/-- The exact value of a finite double. -/
def value (x : Binary64) : ℚ := x.scaled / 2 ^ 1074

theorem isFinite_iff {x : Binary64} : x.isFinite = true ↔ x.rank.val < infinityRank := by
  simp [isFinite]

/-- What is not finite is infinite or not a number. -/
theorem isFinite_eq_false {x : Binary64} :
    x.isFinite = false ↔ x.isNaN = true ∨ x.isInfinite = true := by
  simp only [isFinite, isNaN, isInfinite, decide_eq_false_iff_not, decide_eq_true_eq, beq_iff_eq]
  omega

theorem natAbs_scaled (x : Binary64) : x.scaled.natAbs = x.units := by
  unfold scaled
  split <;> omega

/-- A number of units with a rank is the value of a double. -/
theorem exists_scaled {s : ℤ} {rank : ℕ} (hrank : rank < infinityRank)
    (hs : unitsOfRank rank = s.natAbs) :
    ∃ x : Binary64, x.isFinite = true ∧ x.scaled = s := by
  have hlt : rank < Nat.pow 2 63 := Nat.lt_trans hrank (by decide)
  refine ⟨⟨decide (s < 0), ⟨rank, hlt⟩⟩, isFinite_iff.mpr hrank, ?_⟩
  unfold scaled units
  dsimp only
  rw [hs]
  by_cases hneg : s < 0
  · rw [if_pos (by simpa using hneg)]
    omega
  · rw [if_neg (by simpa using hneg)]
    omega

/-- **The values of finite doubles are the numbers of double precision.** -/
theorem isDouble_iff {q : ℚ} : IsDouble q ↔ ∃ x : Binary64, x.isFinite = true ∧ x.value = q := by
  have hunits : ∀ s : ℤ, IsDouble (s / 2 ^ 1074) ↔ IsShifted 53 0 2045 s.natAbs := fun s =>
    @isBinary_div_iff 53 0 2045 1074 s
  constructor
  · rintro ⟨m, e, hm, hlow, hhigh, rfl⟩
    obtain ⟨k, hk⟩ : ∃ k : ℕ, e = (k : ℤ) - (1074 : ℕ) := ⟨(e + 1074).toNat, by omega⟩
    have hq : ((m * 2 ^ k : ℤ) : ℚ) / 2 ^ 1074 = m * 2 ^ e := by
      rw [hk]
      exact div_eq_iff_of_units.mpr rfl
    have hshifted := (hunits (m * 2 ^ k)).mp (hq ▸ ⟨m, e, hm, hlow, hhigh, rfl⟩)
    obtain ⟨rank, hrank, hs⟩ := exists_rank_iff.mpr hshifted
    obtain ⟨x, hx, hscaled⟩ := exists_scaled hrank hs
    refine ⟨x, hx, ?_⟩
    unfold value
    rw [hscaled, hq]
  · rintro ⟨x, hx, rfl⟩
    unfold value
    rw [hunits, natAbs_scaled]
    exact unitsOfRank_eq_shifted (isFinite_iff.mp hx)

/-! ## 4. Single precision -/

/-- The number of zeros behind which the step of a number of units stands. -/
def singleZeros (n : ℕ) : ℕ := max 925 (n.log2 - 23)

/-- What its step divides has 24 bits. -/
theorem isShifted_of_dvd {n : ℕ} (hmost : n.log2 < 1202) (hstep : 2 ^ singleZeros n ∣ n) :
    IsShifted 24 925 1178 n := by
  obtain ⟨m, hm⟩ := hstep
  rw [mul_comm] at hm
  have hzeros : n.log2 + 1 ≤ 24 + singleZeros n ∧ singleZeros n ≤ 1178 := by
    unfold singleZeros
    omega
  have hlt : m * 2 ^ singleZeros n < 2 ^ 24 * 2 ^ singleZeros n := by
    calc m * 2 ^ singleZeros n = n := hm.symm
      _ < 2 ^ (n.log2 + 1) := Nat.lt_log2_self
      _ ≤ 2 ^ (24 + singleZeros n) := Nat.pow_le_pow_right (by decide) hzeros.1
      _ = 2 ^ 24 * 2 ^ singleZeros n := pow_add 2 24 _
  exact ⟨m, singleZeros n, Nat.lt_of_mul_lt_mul_right hlt, Nat.le_max_left _ _, hzeros.2, hm⟩

/-- What has 24 bits is divided by its step. -/
theorem dvd_of_isShifted {n : ℕ} (hn : n ≠ 0) (h : IsShifted 24 925 1178 n) :
    n.log2 < 1202 ∧ 2 ^ singleZeros n ∣ n := by
  obtain ⟨m, k, hm, hlow, hhigh, rfl⟩ := h
  have hbound : m * 2 ^ k < 2 ^ (24 + k) := by
    rw [pow_add]
    exact Nat.mul_lt_mul_of_pos_right hm (by positivity)
  have htop : (m * 2 ^ k).log2 < 24 + k := (Nat.log2_lt hn).mpr hbound
  have hzeros : singleZeros (m * 2 ^ k) ≤ k := by
    unfold singleZeros
    omega
  exact ⟨by omega, dvd_mul_of_dvd_right (Nat.pow_dvd_pow 2 hzeros) m⟩

/-- **Single precision is recognized by its bits.** -/
theorem fitsBinary32_iff {x : Binary64} :
    x.fitsBinary32 = true ↔ x.isNaN = true ∨ x.isInfinite = true ∨ IsSingle x.value := by
  have hunits : IsSingle x.value ↔ IsShifted 24 925 1178 x.units := by
    rw [← natAbs_scaled]
    exact @isBinary_div_iff 24 925 1178 1074 x.scaled
  rw [hunits, ← or_assoc, ← isFinite_eq_false]
  unfold fitsBinary32
  simp only [Bool.or_eq_true, Bool.and_eq_true, Bool.not_eq_true', beq_iff_eq, decide_eq_true_eq,
    or_assoc]
  refine or_congr_right ?_
  by_cases hzero : x.units = 0
  · rw [hzero]
    exact iff_of_true (.inl rfl) (isShifted_zero (by decide))
  · have hmost : ∀ k, x.units < Nat.pow 2 k ↔ x.units.log2 < k := fun _ =>
      (Nat.log2_lt hzero).symm
    rw [or_iff_right hzero, hmost (1074 + 128), ← Nat.dvd_iff_mod_eq_zero]
    constructor
    · rintro ⟨hmost, hstep⟩
      exact isShifted_of_dvd hmost hstep
    · intro h
      exact dvd_of_isShifted hzero h

/-! ## 5. Rounding a ratio -/

section Ratio

variable {num : ℤ} {den : ℕ} {x : Binary64}

theorem isRatio_iff (hden : den ≠ 0) :
    x.isRatio num den = true ↔ x.isFinite = true ∧ x.value = num / den := by
  unfold isRatio value
  generalize 1074 = places
  rw [Bool.and_eq_true, beq_iff_eq, Nat.pow_eq]
  refine and_congr_right fun _ => ?_
  rw [div_eq_div_iff (by positivity) (Nat.cast_ne_zero.mpr hden)]
  norm_cast

/-- A quotient that comes to the magnitude of a finite double is rounded to its rank. -/
theorem ofQuotient_units {n : ℕ} (hden : den ≠ 0) (hx : x.isFinite = true) (hn : n = x.units * den)
    (negative : Bool) : ofQuotient negative n den = ⟨negative, x.rank⟩ := by
  have hrank : roundRank n den = x.rank.val := by
    rw [hn, roundRank_mul (Nat.pos_of_ne_zero hden)]
    exact roundRank_units x.rank.val
  unfold ofQuotient ofRank
  rw [hrank, dif_pos (isFinite_iff.mp hx)]

/-- **A ratio that is the value of a double is rounded to it**, but for the sign of zero. -/
theorem isRatio_ofRatio (hden : den ≠ 0) (hx : x.isRatio num den = true) :
    (ofRatio num den).isRatio num den = true := by
  unfold isRatio ofRatio at *
  generalize Nat.pow 2 1074 = one at *
  rw [Bool.and_eq_true, beq_iff_eq] at hx ⊢
  obtain ⟨hfinite, hvalue⟩ := hx
  have hmagnitude : num.natAbs * one = x.units * den := by
    have habs := congrArg Int.natAbs hvalue
    rw [Int.natAbs_mul, Int.natAbs_mul, natAbs_scaled] at habs
    exact habs.symm
  rw [ofQuotient_units hden hfinite hmagnitude]
  refine ⟨hfinite, ?_⟩
  have hunits : (x.units : ℤ) * den = num.natAbs * one := by
    exact_mod_cast hmagnitude.symm
  show (if decide (num < 0) = true then -(x.units : ℤ) else x.units) * den = num * one
  by_cases hneg : num < 0
  · rw [if_pos (by simpa using hneg), neg_mul, hunits, ← neg_mul]
    congr 1
    omega
  · rw [if_neg (by simpa using hneg), hunits]
    congr 1
    omega

/-- **Rounding a ratio loses nothing if and only if it is a number of double precision.** -/
theorem isRatio_ofRatio_iff (hden : den ≠ 0) :
    (ofRatio num den).isRatio num den = true ↔ IsDouble (num / den) := by
  rw [isDouble_iff]
  constructor
  · intro h
    exact ⟨_, (isRatio_iff hden).mp h⟩
  · rintro ⟨x, hx⟩
    exact isRatio_ofRatio hden ((isRatio_iff hden).mpr hx)

end Ratio

end Binary64

end Sluice
