import Sluice.Proofs.Number.Exact
import Sluice.Proofs.Record.Walk

/-!
# Numbers are converted exactly or refused

A whole number or a ratio becomes a double only if some double has its exact value, and single
precision takes of these what has few enough bits. Comparing after rounding is enough to find every
loss: a number that some double equals is rounded to that double, and any other number is rounded
to a double that differs from it, or to none.

* `Value.Denotes`: the exact value of a whole number or a ratio;
* `Record.exactDouble?_denotes`: such a number is converted **if and only if it is a double**;
* `Field.convert_exact`: **what the types of floating-point numbers accept, and what they make of
  it**.
-/

namespace Sluice

open Record

/-- A whole number or a ratio has an exact value. -/
inductive Value.Denotes : Value → ℚ → Prop where
  | int (n : Int) : Denotes (.int n) n
  | ratio (num : Int) {den : Nat} (hden : den ≠ 0) : Denotes (.ratio num den) (num / den)

/-! ## 1. Exact doubles -/

namespace Record

/-- What passes both comparisons is the double that was compared. -/
theorem checked_eq_ok {x y : Binary64} {num : Int} {den : Nat} {large inexact : Obstacle} :
    (if !x.isFinite then .error large else if x.isRatio num den then .ok x else .error inexact :
      Except Obstacle Binary64) = .ok y ↔ x = y ∧ x.isRatio num den = true := by
  by_cases hratio : x.isRatio num den = true
  · have hfinite : x.isFinite = true := by
      unfold Binary64.isRatio at hratio
      rw [Bool.and_eq_true] at hratio
      exact hratio.1
    simp [hfinite, hratio]
  · cases x.isFinite <;> simp [hratio]

/-- **A number with an exact value becomes the double of that value, if there is one.** -/
theorem exactDouble?_denotes {v : Value} {q : ℚ} (h : v.Denotes q) :
    ∃ r, exactDouble? v = some r ∧ ((∃ x, r = .ok x) ↔ IsDouble q) ∧
      ∀ x, r = .ok x → x.isFinite = true ∧ x.value = q := by
  have hround : ∀ (num : Int) {den : Nat}, den ≠ 0 → ∀ r : Except Obstacle Binary64,
      (∀ y, r = .ok y ↔ .ofRatio num den = y ∧ (Binary64.ofRatio num den).isRatio num den = true) →
      ((∃ x, r = .ok x) ↔ IsDouble (num / den)) ∧
        ∀ x, r = .ok x → x.isFinite = true ∧ x.value = num / den := by
    intro num den hden r hr
    refine ⟨?_, fun x hx => ?_⟩
    · rw [← Binary64.isRatio_ofRatio_iff hden]
      exact ⟨fun ⟨x, hx⟩ => ((hr x).mp hx).2, fun h => ⟨_, (hr _).mpr ⟨rfl, h⟩⟩⟩
    · obtain ⟨rfl, hratio⟩ := (hr x).mp hx
      exact (Binary64.isRatio_iff hden).mp hratio
  cases h with
  | int n =>
    have hn := hround n Nat.one_ne_zero (exactInteger n) fun y => checked_eq_ok
    rw [Nat.cast_one, div_one] at hn
    exact ⟨_, rfl, hn⟩
  | ratio num hden => exact ⟨_, rfl, hround num hden (exactRatio num _) fun y => checked_eq_ok⟩

/-! ## 2. The types of floating-point numbers -/

section Scalars

variable {path : Text} {v w : Value}

theorem scalar_of_ne {type : Scalar} (h : type ≠ .timestamp) :
    Record.scalar type path v = match scalar? type v with
      | some (.ok w) => .ok w
      | some (.error obstacle) =>
        .error (.rejected (.mismatch path type.name v.kindName (some obstacle)))
      | none => .error (.rejected (.mismatch path type.name v.kindName none)) :=
  Field.scalar_eq fun htime => absurd htime h

theorem scalar?_double : scalar? .double v = (exactDouble? v).map fun r => r.map .float := by
  cases v <;> rfl

theorem scalar?_float :
    scalar? .float v = (exactDouble? v).map fun r => r.bind fun x =>
      if x.fitsBinary32 then .ok (.float x) else .error .notSingle := by
  cases v <;> rfl

theorem scalar_double_eq_ok :
    Record.scalar .double path v = .ok w ↔ ∃ x, exactDouble? v = some (.ok x) ∧ w = .float x := by
  rw [scalar_of_ne (by decide : Scalar.double ≠ .timestamp), scalar?_double]
  cases exactDouble? v with
  | none => simp
  | some r => cases r <;> simp [Except.map, eq_comm]

/-- **Single precision accepts of what double precision accepts the numbers that fit.** -/
theorem scalar_float_eq_ok :
    Record.scalar .float path v = .ok w ↔
      Record.scalar .double path v = .ok w ∧ ∃ x, w = .float x ∧ x.fitsBinary32 = true := by
  rw [scalar_double_eq_ok, scalar_of_ne (by decide : Scalar.float ≠ .timestamp), scalar?_float]
  cases exactDouble? v with
  | none => simp
  | some r =>
    cases r with
    | error obstacle => simp [Except.bind]
    | ok x =>
      simp only [Option.map_some, Except.bind]
      by_cases hfits : x.fitsBinary32 = true
      · rw [if_pos hfits]
        constructor
        · intro h
          cases h
          exact ⟨⟨x, rfl, rfl⟩, x, rfl, hfits⟩
        · rintro ⟨⟨x', hx, rfl⟩, -⟩
          cases hx
          rfl
      · rw [if_neg hfits]
        refine iff_of_false (fun h => by cases h) ?_
        rintro ⟨⟨x', hx, rfl⟩, y, hy, hy'⟩
        cases hx
        cases hy
        exact hfits hy'

end Scalars

end Record

/-! ## 3. Fields -/

namespace Field

/-- A type other than that of times refuses a value by rejecting it. -/
theorem convert_scalar_error {name path : Text} {nullable : Bool} {type : Scalar}
    {element? : Option Field} {members? : Option (List Field)} {v : Value} {r : Refusal}
    (htype : type ≠ .timestamp)
    (h : (Field.scalar name nullable type element? members?).convert path v = .error r) :
    (v = .null ∧ r = .rejected (.null path)) ∨
      ∃ obstacle?, r = .rejected (.mismatch path type.name v.kindName obstacle?) := by
  cases hv : v.isNull with
  | true =>
    cases v <;> cases hv
    rw [convert_null] at h
    unfold convert.convertNull at h
    split at h <;> cases h
    exact .inl ⟨rfl, rfl⟩
  | false =>
    rw [convert_scalar hv, scalar_of_ne htype] at h
    split at h <;> cases h
    · exact .inr ⟨_, rfl⟩
    · exact .inr ⟨_, rfl⟩

/-- **The types of floating-point numbers accept what they can hold, and change nothing about it.**
Double precision accepts a whole number or a ratio if and only if some double has its value, and
makes it that double; it accepts every double as it is. Single precision accepts of these what is
infinite, not a number, or has few enough bits. Neither accepts truth values or decimals, and
whatever is refused is rejected: no conversion breaks off. -/
theorem convert_exact (name path : Text) (nullable : Bool) (element? : Option Field)
    (members? : Option (List Field)) :
    let double : Field := .scalar name nullable .double element? members?
    let single : Field := .scalar name nullable .float element? members?
    (∀ v q, v.Denotes q →
      ((∃ w, double.convert path v = .ok w) ↔ IsDouble q) ∧
        ∀ w, double.convert path v = .ok w → ∃ x, w = .float x ∧ x.isFinite = true ∧ x.value = q) ∧
    (∀ x, double.convert path (.float x) = .ok (.float x)) ∧
    (∀ v w, v.isNull = false →
      (single.convert path v = .ok w ↔ double.convert path v = .ok w ∧
        ∃ x, w = .float x ∧ (x.isNaN = true ∨ x.isInfinite = true ∨ IsSingle x.value))) ∧
    (∀ v, (∃ b, v = .bool b) ∨ (∃ d, v = .decimal d) →
      ∀ w, double.convert path v ≠ .ok w ∧ single.convert path v ≠ .ok w) ∧
    (∀ v r, double.convert path v = .error r →
      (v = .null ∧ r = .rejected (.null path)) ∨
        ∃ obstacle?, r = .rejected (.mismatch path "DOUBLE" v.kindName obstacle?)) ∧
    ∀ v r, single.convert path v = .error r →
      (v = .null ∧ r = .rejected (.null path)) ∨
        ∃ obstacle?, r = .rejected (.mismatch path "FLOAT" v.kindName obstacle?) := by
  intro double single
  refine ⟨fun v q hq => ?_, fun x => rfl, fun v w hv => ?_, ?_, fun v r hr => ?_, fun v r hr => ?_⟩
  · have hv : v.isNull = false := by cases hq <;> rfl
    obtain ⟨r, hr, haccepts, hvalue⟩ := exactDouble?_denotes hq
    have hdouble : ∀ w, double.convert path v = .ok w ↔ ∃ x, r = .ok x ∧ w = .float x := by
      intro w
      rw [convert_scalar hv, scalar_double_eq_ok, hr]
      simp only [Option.some.injEq]
    refine ⟨?_, fun w hw => ?_⟩
    · rw [← haccepts]
      constructor
      · rintro ⟨w, hw⟩
        obtain ⟨x, hx, -⟩ := (hdouble w).mp hw
        exact ⟨x, hx⟩
      · rintro ⟨x, hx⟩
        exact ⟨.float x, (hdouble _).mpr ⟨x, hx, rfl⟩⟩
    · obtain ⟨x, hx, rfl⟩ := (hdouble w).mp hw
      exact ⟨x, rfl, hvalue x hx⟩
  · rw [convert_scalar hv, convert_scalar hv, scalar_float_eq_ok]
    simp only [Binary64.fitsBinary32_iff]
  · rintro v (⟨b, rfl⟩ | ⟨d, rfl⟩) w
    · constructor <;> intro h <;> cases h
    · constructor <;> intro h <;> cases h
  · exact convert_scalar_error (by decide) hr
  · exact convert_scalar_error (by decide) hr

/-- The smallest double is accepted as a ratio, the first whole number behind `2 ^ 53` is no double,
infinity is of single precision, and a truth value is rejected. -/
theorem convert_exact_limits :
    let double : Field := .ofScalar "d" false .double
    let single : Field := .ofScalar "s" false .float
    (∃ w, double.convert "d" (.ratio 1 (2 ^ 1074)) = .ok w) ∧
      ¬ IsDouble ((9007199254740993 : ℤ) : ℚ) ∧
      single.convert "s" (.float (.infinity true)) = .ok (.float (.infinity true)) ∧
      ∀ r, double.convert "d" (.bool true) = .error r →
        ∃ obstacle?, r = .rejected (.mismatch "d" "DOUBLE" "bool" obstacle?) := by
  intro double single
  obtain ⟨hnumbers, -, -, -, hrejected, -⟩ := convert_exact "d" "d" false none none
  obtain ⟨-, hdoubles, hsingle, -⟩ := convert_exact "s" "s" false none none
  refine ⟨?_, ?_, ?_, fun r hr => ?_⟩
  · have hden : (2 : ℕ) ^ 1074 ≠ 0 := pow_ne_zero 1074 two_ne_zero
    refine (hnumbers _ _ (.ratio 1 hden)).1.mpr ⟨1, -1074, by norm_num, le_rfl, by norm_num, ?_⟩
    rw [zpow_neg, zpow_ofNat, Int.cast_one, one_mul, one_div, Nat.cast_pow, Nat.cast_ofNat]
  · have hinexact : exactInteger 9007199254740993 = .error .integerInexact := by decide +kernel
    intro h
    obtain ⟨w, hw⟩ := (hnumbers _ _ (.int 9007199254740993)).1.mpr h
    rw [convert_scalar rfl, scalar_double_eq_ok] at hw
    obtain ⟨x, hx, -⟩ := hw
    have hexact := Option.some.inj hx
    rw [hinexact] at hexact
    cases hexact
  · exact (hsingle _ _ rfl).mpr ⟨hdoubles _, _, rfl, .inr (.inl rfl)⟩
  · rcases hrejected _ r hr with ⟨hnull, -⟩ | h
    · cases hnull
    · exact h

end Field

end Sluice
