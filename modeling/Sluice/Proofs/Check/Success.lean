import Sluice.Check.Scalar
import Sluice.Config.Reader
import Sluice.Proofs.Chain

/-!
# Checks that succeed

A check of several parts succeeds only where each part does, so what one reader has ensured is true
of the whole. There is one lemma for each way to put checks together.

* `Checked.feed_ok`, `Checked.both_ok`, `Checked.ensure_ok`: **what a check that succeeds says of
  its parts**;
* `Check.optional_ok`: a member with a default is the default or has passed its check.
-/

namespace Sluice

/-! ## 1. Combinators -/

namespace Checked

variable {α β : Type}

theorem under_ok {step : Step} {c : Checked α} {a : α} : under step c = .ok a ↔ c = .ok a := by
  cases c with
  | ok b => exact Iff.rfl
  | error issues => exact ⟨fun h => (by cases h), fun h => (by cases h)⟩

/-- Two checks together succeed where both do. -/
theorem both_ok {c : Checked α} {d : Checked β} {p : α × β} :
    both c d = .ok p ↔ c = .ok p.1 ∧ d = .ok p.2 := by
  constructor
  · intro h
    cases c <;> cases d <;> cases h
    exact ⟨rfl, rfl⟩
  · rintro ⟨rfl, rfl⟩
    rfl

/-- A condition that was ensured is true of the result. -/
theorem ensure_ok {condition : α → Option Cause} {c : Checked α} {a : α} :
    ensure condition c = .ok a ↔ c = .ok a ∧ condition a = none := by
  cases c with
  | error issues => exact ⟨fun h => (by cases h), fun h => (by cases h.1)⟩
  | ok b =>
    unfold ensure Except.bind
    dsimp only
    cases hb : condition b with
    | none =>
      constructor
      · intro h
        cases h
        exact ⟨rfl, hb⟩
      · rintro ⟨h, -⟩
        exact h
    | some cause =>
      constructor
      · intro h
        cases h
      · rintro ⟨h, hnone⟩
        cases h
        cases hb.symm.trans hnone

/-- A function is fed where both it and its argument have passed. -/
theorem feed_ok {argument : Checked α} {function : Checked (α → β)} {b : β} :
    feed argument function = .ok b ↔ ∃ f a, function = .ok f ∧ argument = .ok a ∧ f a = b := by
  constructor
  · intro h
    obtain ⟨⟨f, a⟩, hboth, happly⟩ := map_ok h
    obtain ⟨hf, ha⟩ := both_ok.mp hboth
    exact ⟨f, a, hf, ha, happly⟩
  · rintro ⟨f, a, rfl, rfl, rfl⟩
    rfl

end Checked

/-! ## 2. Members and numbers -/

namespace Check

variable {α : Type} {name : Text} {check : Value → Checked α} {es : List (Value × Value)} {a : α}

/-- A member that must be there has passed its check. -/
theorem required_ok (h : required name check es = .ok a) : ∃ v, check v = .ok a := by
  unfold required at h
  have hpassed := Checked.under_ok.mp h
  split at hpassed
  · next v _ => exact ⟨v, hpassed⟩
  · cases hpassed

/-- A member with a default is the default, or a value that has passed its check. -/
theorem optional_ok {default_ : α} (h : optional name default_ check es = .ok a) :
    a = default_ ∨ ∃ v, check v = .ok a := by
  unfold optional at h
  split at h
  · next v hv => exact .inr ⟨v, Checked.under_ok.mp h⟩
  · cases h
    exact .inl rfl

/-- A whole number above zero, or a default that is one. -/
theorem optional_integerAbove {n default_ : Int} (hdefault : 0 < default_)
    (h : optional name default_ (integerAbove 0) es = .ok n) : 0 < n.toNat := by
  rcases optional_ok h with rfl | ⟨v, hv⟩
  · omega
  · obtain ⟨-, hbound⟩ := Checked.ensure_ok.mp hv
    split at hbound
    · next hlt => omega
    · cases hbound

/-- A whole number that is at least one, or a default that is. -/
theorem optional_integerFrom {n default_ : Int} (hdefault : 1 ≤ default_)
    (h : optional name default_ (integerFrom 1) es = .ok n) : 0 < n.toNat := by
  rcases optional_ok h with rfl | ⟨v, hv⟩
  · omega
  · obtain ⟨-, hbound⟩ := Checked.ensure_ok.mp hv
    split at hbound
    · next hle => omega
    · cases hbound

/-- A number above a bound. -/
theorem numberAbove_ok {bound : Int} {v : Value} {x : Binary64} (h : numberAbove bound v = .ok x) :
    (Binary64.ofInt bound).lt x = true := by
  obtain ⟨-, hbound⟩ := Checked.ensure_ok.mp h
  split at hbound
  · next hlt => exact hlt
  · cases hbound

/-- A number that is at least a bound, or a default that is. -/
theorem optional_numberFrom {bound : Int} {x default_ : Binary64}
    (hdefault : (Binary64.ofInt bound).le default_ = true)
    (h : optional name default_ (numberFrom bound) es = .ok x) :
    (Binary64.ofInt bound).le x = true := by
  rcases optional_ok h with rfl | ⟨v, hv⟩
  · exact hdefault
  · obtain ⟨-, hbound⟩ := Checked.ensure_ok.mp hv
    split at hbound
    · next hle => exact hle
    · cases hbound

/-- A value that may also be null: it is null, or it has passed its check. -/
theorem nullable_ok {v : Value} {a? : Option α} (h : nullable check v = .ok a?) :
    a? = none ∨ ∃ a, check v = .ok a ∧ a? = some a := by
  unfold nullable at h
  split at h
  · cases h
    exact .inl rfl
  · obtain ⟨a, ha, hsome⟩ := map_ok h
    exact .inr ⟨a, ha, hsome.symm⟩

end Check

end Sluice
