/-!
# Rounding a quotient

Every exact conversion between number formats ends in one question: which whole number stands for
`n / d`. `roundHalfEven` answers it with the nearest one, and with the even one of two that are
equally near; `roundHalfUp` takes the larger one of these. Main facts about the former: the answer
is at most half a unit away (`roundHalfEven_le`, `le_roundHalfEven`), and a quotient without
remainder is its own answer (`roundHalfEven_mul`).
-/

namespace Sluice.Number

/-- The whole number nearest to `n / d`, the even one when two are equally near. -/
def roundHalfEven (n d : Nat) : Nat :=
  let q := n / d
  let twice := 2 * (n % d)
  if twice < d then q
  else if d < twice then q + 1
  else q + q % 2

/-- The whole number nearest to `n / d`, the larger one when two are equally near. -/
def roundHalfUp (n d : Nat) : Nat := (2 * n + d) / (2 * d)

/-- A quotient without remainder is its own rounding. -/
theorem roundHalfEven_mul (q d : Nat) (hd : 0 < d) : roundHalfEven (q * d) d = q := by
  simp [roundHalfEven, Nat.mul_div_cancel q hd, hd]

/-- The rounding is the quotient rounded down or one more, whichever leaves the smaller rest. -/
theorem roundHalfEven_eq (n d : Nat) :
    (roundHalfEven n d = n / d ∧ 2 * (n % d) ≤ d) ∨
      (roundHalfEven n d = n / d + 1 ∧ d ≤ 2 * (n % d)) := by
  have hp : (n / d) % 2 = 0 ∨ (n / d) % 2 = 1 := by omega
  simp only [roundHalfEven]
  split
  · exact .inl ⟨rfl, by omega⟩
  · split
    · exact .inr ⟨rfl, by omega⟩
    · rcases hp with h | h
      · exact .inl ⟨by omega, by omega⟩
      · exact .inr ⟨by omega, by omega⟩

/-- The rounding is at most half a unit above the quotient. -/
theorem roundHalfEven_le (n d : Nat) : 2 * (d * roundHalfEven n d) ≤ 2 * n + d := by
  have hsum := Nat.div_add_mod n d
  rcases roundHalfEven_eq n d with ⟨h, hr⟩ | ⟨h, hr⟩
  · rw [h]; omega
  · rw [h, Nat.mul_add]; omega

/-- The rounding is at most half a unit below the quotient. -/
theorem le_roundHalfEven (n d : Nat) (hd : 0 < d) : 2 * n ≤ 2 * (d * roundHalfEven n d) + d := by
  have hsum := Nat.div_add_mod n d
  have hlt := Nat.mod_lt n hd
  rcases roundHalfEven_eq n d with ⟨h, hr⟩ | ⟨h, hr⟩
  · rw [h]; omega
  · rw [h, Nat.mul_add]; omega

end Sluice.Number
