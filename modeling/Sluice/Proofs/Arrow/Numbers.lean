import Sluice.Arrow.Cast
import Sluice.Proofs.Chain
import Sluice.Proofs.Number.Parts

/-!
# Numbers in cells

Whole numbers, doubles and decimals in the cells of columns have exact values (`Holds`). Most casts
between them give a number of another form and the same value, or no number at all. Two of them
round: doubles become the nearest decimals with nine places, and decimals become the nearest
doubles.

* `inRange_keeps`, `wholeFloat_keeps`, `wholeDecimal_keeps`, `intToDouble_keeps`, `rescale_keeps`:
  **the casts that keep the value**;
* `roundToPlaces_value`: **a double becomes a decimal at most half a unit of the ninth place away**,
  and the same number only if it has no more than nine places;
* `ofRatio_sameNumber_iff`: **a decimal becomes the same number only if a double has its value**;
* `conversion?_keeps`, `conversion?_float`, `conversion?_decimal`: both for the columns that such
  cells stand in.
-/

namespace Sluice

/-! ## 1. Exact values -/

/-- The exact value of the number in a cell. -/
inductive Value.Holds : Value → ℚ → Prop where
  | int (n : ℤ) : Holds (.int n) n
  | float {x : Binary64} (h : x.isFinite = true) : Holds (.float x) x.value
  | decimal (negative : Bool) (c : ℕ) (e : ℤ) :
      Holds (.decimal (.finite negative c e)) (signed negative c * 10 ^ e)

/-- **Two cells hold the same number**, in one form or two. -/
def Value.SameNumber (v w : Value) : Prop := v = w ∨ ∃ q, v.Holds q ∧ w.Holds q

section Values

variable {v w : Value} {q r : ℚ}

theorem Value.Holds.unique (hq : v.Holds q) (hr : v.Holds r) : q = r := by
  cases hq <;> cases hr <;> rfl

theorem Value.Holds.isNull_eq_false (h : v.Holds q) : v.isNull = false := by
  cases h <;> rfl

/-- Two numbers of known values are the same if and only if the values are. -/
theorem Value.Holds.sameNumber_iff (hv : v.Holds q) (hw : w.Holds r) :
    v.SameNumber w ↔ r = q := by
  constructor
  · rintro (rfl | ⟨p, hp, hp'⟩)
    · exact hw.unique hv
    · rw [hv.unique hp, hw.unique hp']
  · rintro rfl
    exact .inr ⟨r, hv, hw⟩

theorem Value.SameNumber.isNull_eq (h : v.SameNumber w) : w.isNull = v.isNull := by
  rcases h with rfl | ⟨q, hv, hw⟩
  · rfl
  · rw [hv.isNull_eq_false, hw.isNull_eq_false]

/-- A number of the same value may take the place of the one that was read. -/
theorem Value.SameNumber.of_holds {u : Value} (h : v.SameNumber w) (hv : v.Holds q)
    (hu : u.Holds q) : u.SameNumber w := by
  rcases h with rfl | ⟨r, hr, hw⟩
  · exact .inr ⟨q, hu, hv⟩
  · rw [← hv.unique hr] at hw
    exact .inr ⟨q, hu, hw⟩

end Values

/-- A whole number is a decimal without places. -/
theorem Decimal.holds_ofInt (n : ℤ) : (Value.decimal (.ofInt n)).Holds n := by
  have hsigned : signed (n < 0) n.natAbs = n := by
    unfold signed
    by_cases hneg : n < 0
    · rw [if_pos (decide_eq_true hneg)]
      omega
    · rw [if_neg (by simpa using hneg)]
      omega
  have hholds := Value.Holds.decimal (n < 0) n.natAbs 0
  rw [hsigned, zpow_zero, mul_one] at hholds
  exact hholds

namespace Arrow

/-! ## 2. Casts that keep the value -/

section Keeps

variable {low high n : ℤ} {v w : Value}

theorem inRange_eq_ok : inRange low high n = .ok w ↔ low ≤ n ∧ n ≤ high ∧ w = .int n := by
  unfold inRange
  by_cases h : low ≤ n ∧ n ≤ high
  · rw [if_pos h]
    exact ⟨fun hw => ⟨h.1, h.2, (Except.ok.inj hw).symm⟩, fun hw => hw.2.2 ▸ rfl⟩
  · rw [if_neg h]
    exact ⟨fun hw => (by cases hw), fun hw => absurd ⟨hw.1, hw.2.1⟩ h⟩

theorem inRange_keeps (h : inRange low high n = .ok w) : (Value.int n).SameNumber w := by
  obtain ⟨-, -, rfl⟩ := inRange_eq_ok.mp h
  exact .inl rfl

theorem wholeFloat_keeps {target : Scalar} {x : Binary64}
    (h : wholeFloat target low high x = .ok w) : (Value.float x).SameNumber w := by
  unfold wholeFloat at h
  dsimp only at h
  split at h
  · next hwhole =>
    simp only [Bool.and_eq_true] at hwhole
    obtain ⟨⟨⟨hfinite, hexact⟩, -⟩, -⟩ := hwhole
    cases h
    refine .inr ⟨_, .float hfinite, ?_⟩
    rw [Binary64.value_of_toInt (Prod.ext rfl hexact)]
    exact .int _
  · cases h

theorem wholeDecimal_keeps {d : Decimal} (h : wholeDecimal low high d = .ok w) :
    (Value.decimal d).SameNumber w := by
  unfold wholeDecimal at h
  cases d with
  | finite negative c e =>
    obtain ⟨n, k, hratio, hk, hvalue⟩ := Decimal.ratio?_finite negative c e
    rw [hratio] at h
    dsimp only at h
    split at h
    · next hwhole =>
      obtain ⟨-, -, rfl⟩ := inRange_eq_ok.mp h
      refine .inr ⟨_, .decimal negative c e, ?_⟩
      have hint : ((n / k : ℤ) : ℚ) = n / k := by
        rw [Int.cast_div (Int.dvd_of_emod_eq_zero hwhole) (by exact_mod_cast hk)]
        rfl
      rw [← hvalue, ← hint]
      exact .int _
    · cases h
  | infinite => cases h
  | nan => cases h

/-- A ratio that is a number of double precision is the value of its double, and no other ratio
is. -/
theorem ofRatio_sameNumber_iff {q : ℚ} {num : ℤ} {den : ℕ} (hden : den ≠ 0) (hq : num / den = q)
    (hv : v.Holds q) (hfloat : ∀ x, v ≠ .float x) :
    v.SameNumber (.float (.ofRatio num den)) ↔ IsDouble q := by
  subst hq
  rw [← Binary64.isRatio_ofRatio_iff hden, Binary64.isRatio_iff hden]
  constructor
  · rintro (heq | ⟨r, hr, hw⟩)
    · exact absurd heq (hfloat _)
    · cases hw with
      | float hfinite => exact ⟨hfinite, hr.unique hv⟩
  · rintro ⟨hfinite, hvalue⟩
    exact (hv.sameNumber_iff (.float hfinite)).mpr hvalue

theorem intToDouble_keeps {isSigned : Bool} (h : intToDouble isSigned n = .ok w) :
    (Value.int n).SameNumber w := by
  obtain ⟨v, hv, rfl⟩ := map_ok h
  obtain ⟨hlow, hhigh, -⟩ := inRange_eq_ok.mp hv
  have hbound : |n| ≤ 2 ^ 53 := by
    rw [abs_le]
    unfold exactDoubles at hlow hhigh
    split at hlow <;> omega
  have hone : (n : ℚ) / (1 : ℕ) = n := by rw [Nat.cast_one, div_one]
  exact (ofRatio_sameNumber_iff Nat.one_ne_zero hone (.int n) (fun x => by rintro ⟨⟩)).mpr
    (isDouble_of_le hbound)

theorem ofUnits_eq_ok {negative : Bool} {units : ℕ} (h : ofUnits negative units = .ok w) :
    w = .decimal (.finite negative units (-numericScale)) := by
  unfold ofUnits at h
  split at h
  · exact (Except.ok.inj h).symm
  · cases h

theorem rescale_keeps {d : Decimal} (h : rescale d = .ok w) : (Value.decimal d).SameNumber w := by
  cases d with
  | finite negative c e =>
    unfold rescale at h
    dsimp only at h
    have hunits : ∀ units : ℕ, ofUnits (negative && c != 0) units = .ok w → (c = 0 → units = 0) →
        (units : ℚ) * 10 ^ (-numericScale : ℤ) = c * 10 ^ e →
        (Value.decimal (.finite negative c e)).SameNumber w := by
      intro units hw hzero hvalue
      rw [ofUnits_eq_ok hw]
      refine .inr ⟨_, .decimal negative c e, ?_⟩
      rw [← (signed_mul_eq_iff negative).mpr hvalue, ← signed_of_zero hzero]
      exact .decimal _ units _
    split at h
    · -- up to nine places: zeros are written behind the coefficient
      next k hk =>
      refine hunits _ h (fun hc => by rw [hc, Nat.zero_mul]) ?_
      have he : e = k + -numericScale := by
        rw [← Int.ofNat_eq_natCast k, ← hk]
        ring
      rw [he, zpow_add₀ (by norm_num), zpow_natCast, ← mul_assoc]
      push_cast [Nat.pow_eq]
      rfl
    · -- more places: those behind the ninth are zeros
      next k hk =>
      split at h
      · next hdvd =>
        obtain ⟨m, rfl⟩ := Nat.dvd_of_mod_eq_zero hdvd
        have hpos : 0 < Nat.pow 10 (k + 1) := Nat.pow_pos (by decide)
        rw [Nat.mul_div_cancel_left m hpos] at h
        refine hunits _ h (fun hc => (Nat.mul_eq_zero.mp hc).resolve_left hpos.ne') ?_
        have he : (-numericScale : ℤ) = (k + 1 : ℕ) + e := by
          have := Int.negSucc_eq k
          omega
        rw [he, zpow_add₀ (by norm_num), zpow_natCast]
        push_cast [Nat.pow_eq]
        ring
      · cases h
  | infinite => cases h
  | nan => cases h

end Keeps

/-! ## 3. Casts that round -/

section Rounds

/-- **A double becomes the nearest decimal with nine places**, and the same number if and only if it
has no more places than these. -/
theorem roundToPlaces_value {x : Binary64} {w : Value} (h : roundToPlaces x = .ok w) :
    x.isFinite = true ∧ ∃ r, w.Holds r ∧ |r - x.value| ≤ 1 / (2 * 10 ^ numericScale) ∧
      (r = x.value ↔ ∃ n : ℤ, x.value * 10 ^ numericScale = n) := by
  unfold roundToPlaces Binary64.value at *
  rw [Binary64.scaled_eq_signed]
  generalize 1074 = places at h ⊢
  split at h
  · cases h
  · next hfinite =>
    refine ⟨by simpa using hfinite, ?_⟩
    dsimp only at h
    split at h
    · cases h
      have hp : 0 < 10 ^ numericScale := by positivity
      have hd : 0 < 2 ^ places := by positivity
      have hr : ∀ units : ℕ, (signed x.negative units : ℚ) * 10 ^ (-numericScale : ℤ) =
          signed x.negative units * (1 / (10 ^ numericScale : ℕ)) := by
        intro units
        rw [zpow_neg, zpow_natCast, one_div]
        push_cast
        rfl
      have hq : (signed x.negative x.units : ℚ) / 2 ^ places =
          signed x.negative x.units * (1 / (2 ^ places : ℕ)) := by
        rw [mul_one_div]
        push_cast
        rfl
      refine ⟨_, .decimal _ _ _, ?_, ?_⟩
      · rw [signed_of_zero id, hr, hq, abs_signed_sub, mul_one_div, mul_one_div]
        exact_mod_cast Number.roundHalfEven_div_near x.units hp hd
      · have hwhole : ∀ n : ℤ, (signed x.negative x.units : ℚ) * (1 / (2 ^ places : ℕ)) *
            10 ^ numericScale = n ↔ (signed x.negative x.units : ℚ) *
              (1 / (2 ^ places : ℕ) * (10 ^ numericScale : ℕ)) = n := by
          intro n
          rw [mul_assoc]
          push_cast
          rfl
        rw [signed_of_zero id, hr, hq, signed_mul_eq_iff, mul_one_div, mul_one_div]
        simp only [hwhole]
        rw [signed_isWhole_iff _ _ (by positivity), ← mul_assoc, mul_one_div]
        exact Number.roundHalfEven_div_eq_iff x.units hp hd
    · cases h

end Rounds

/-! ## 4. Columns of numbers -/

/-- The columns of numbers, whose cells may stand in a dictionary. -/
def DataType.isNumeric : DataType → Bool
  | .int .. | .float _ | .decimal .. => true
  | .dictionary _ value => value.isNumeric
  | _ => false

end Arrow

/-- The types of numbers. -/
def Scalar.isNumeric : Scalar → Bool
  | .int32 | .int64 | .float | .double | .numeric => true
  | _ => false

namespace Arrow

/-- Whether a cast rounds: doubles to decimals, or decimals to doubles. -/
def rounds : DataType → Scalar → Bool
  | .float _, .numeric => true
  | .decimal .., .double => true
  | _, _ => false

section Conversions

variable {source : DataType} {f : Conversion} {v w : Value}

theorem toInt?_keeps {target : Scalar} {bits : ℕ} (hf : toInt? target bits source = some f)
    (hsource : source.isNumeric = true) (h : f v = .ok w) : v.SameNumber w := by
  cases source with
  | int isSigned width =>
    cases hf
    cases v with
    | int n => exact inRange_keeps h
    | _ => cases h; exact .inl rfl
  | float width =>
    cases hf
    cases v with
    | float x => exact wholeFloat_keeps h
    | _ => cases h; exact .inl rfl
  | decimal width precision scale =>
    cases hf
    cases v with
    | decimal d => exact wholeDecimal_keeps h
    | _ => cases h; exact .inl rfl
  | dictionary => cases hf
  | _ => cases hsource

theorem toDouble?_keeps (hf : toDouble? source = some f) (hsource : source.isNumeric = true)
    (hrounds : rounds source .double = false) (h : f v = .ok w) : v.SameNumber w := by
  cases source with
  | int isSigned width =>
    cases hf
    cases v with
    | int n => exact intToDouble_keeps h
    | _ => cases h; exact .inl rfl
  | float width =>
    cases hf
    cases h
    exact .inl rfl
  | decimal => cases hrounds
  | dictionary => cases hf
  | _ => cases hsource

theorem toNumeric?_keeps (hf : toNumeric? source = some f) (hsource : source.isNumeric = true)
    (hrounds : rounds source .numeric = false) (h : f v = .ok w) : v.SameNumber w := by
  cases source with
  | int isSigned width =>
    cases hf
    cases v with
    | int n => exact (rescale_keeps h).of_holds (Decimal.holds_ofInt n) (.int n)
    | _ => cases h; exact .inl rfl
  | decimal width precision scale =>
    cases hf
    cases v with
    | decimal d => exact rescale_keeps h
    | _ => cases h; exact .inl rfl
  | float => cases hrounds
  | dictionary => cases hf
  | _ => cases hsource

/-- Columns of numbers that stand in no dictionary are cast as their cells are. -/
theorem conversion?_numeric (hsource : source.isNumeric = true)
    (hplain : ∀ index value, source ≠ .dictionary index value) :
    conversion? .int32 source = toInt? .int32 32 source ∧
      conversion? .int64 source = toInt? .int64 64 source ∧
      conversion? .float source = none ∧ conversion? .double source = toDouble? source ∧
      conversion? .numeric source = toNumeric? source := by
  cases source with
  | int => exact ⟨rfl, rfl, rfl, rfl, rfl⟩
  | float => exact ⟨rfl, rfl, rfl, rfl, rfl⟩
  | decimal => exact ⟨rfl, rfl, rfl, rfl, rfl⟩
  | dictionary index value => exact absurd rfl (hplain index value)
  | _ => cases hsource

/-- **A cast between columns of numbers keeps every number unless it is one of the two that
round.** -/
theorem conversion?_keeps {target : Scalar} (hf : conversion? target source = some f)
    (hsource : source.isNumeric = true) (htarget : target.isNumeric = true)
    (hrounds : rounds source target = false) (h : f v = .ok w) : v.SameNumber w := by
  by_cases hdictionary : ∃ index value, source = .dictionary index value
  · -- the cells of a dictionary are taken as they are
    obtain ⟨index, value, rfl⟩ := hdictionary
    unfold conversion? at hf
    dsimp only at hf
    split at hf
    · cases hf
      cases h
      exact .inl rfl
    · cases hf
  · obtain ⟨hint32, hint64, hfloat, hdouble, hnumeric⟩ := conversion?_numeric hsource
      fun index value heq => hdictionary ⟨index, value, heq⟩
    cases target with
    | int32 => exact toInt?_keeps (hint32 ▸ hf) hsource h
    | int64 => exact toInt?_keeps (hint64 ▸ hf) hsource h
    | float =>
      rw [hfloat] at hf
      cases hf
    | double => exact toDouble?_keeps (hdouble ▸ hf) hsource hrounds h
    | numeric => exact toNumeric?_keeps (hnumeric ▸ hf) hsource hrounds h
    | _ => cases htarget

/-- Doubles that become decimals are rounded, and half precision becomes none. -/
theorem conversion?_float_apply {bits : ℕ} (hf : conversion? .numeric (.float bits) = some f)
    (v : Value) : f v = match v with
      | .float x => roundToPlaces x
      | v => .ok v := by
  have hcast : toNumeric? (.float bits) = some f := hf
  unfold toNumeric? at hcast
  dsimp only at hcast
  split at hcast
  · cases hcast
  · cases hcast
    rfl

/-- **A double that becomes a decimal is rounded to nine places.** -/
theorem conversion?_float {bits : ℕ} {x : Binary64}
    (hf : conversion? .numeric (.float bits) = some f) (h : f (.float x) = .ok w) :
    x.isFinite = true ∧ (∃ r, w.Holds r ∧ |r - x.value| ≤ 1 / (2 * 10 ^ numericScale)) ∧
      ((Value.float x).SameNumber w ↔ ∃ n : ℤ, x.value * 10 ^ numericScale = n) := by
  rw [conversion?_float_apply hf] at h
  obtain ⟨hfinite, r, hr, hnear, hsame⟩ := roundToPlaces_value h
  exact ⟨hfinite, ⟨r, hr, hnear⟩, ((Value.Holds.float hfinite).sameNumber_iff hr).trans hsame⟩

/-- **A decimal that becomes a double is rounded**, and keeps its value if and only if a double has
it. -/
theorem conversion?_decimal {bits precision : ℕ} {scale e : ℤ} {negative : Bool} {c : ℕ}
    (hf : conversion? .double (.decimal bits precision scale) = some f)
    (h : f (.decimal (.finite negative c e)) = .ok w) :
    (Value.decimal (.finite negative c e)).SameNumber w ↔
      IsDouble (signed negative c * 10 ^ e) := by
  have hcast : toDouble? (.decimal bits precision scale) = some f := hf
  cases hcast
  obtain ⟨n, k, hratio, hk, hvalue⟩ := Decimal.ratio?_finite negative c e
  dsimp only at h
  rw [hratio] at h
  cases h
  exact ofRatio_sameNumber_iff hk hvalue (.decimal negative c e) fun x => by rintro ⟨⟩

end Conversions

end Arrow

end Sluice
