import Sluice.Proofs.Calendar

/-!
# Shifting a time to UTC

A shift adds to the microseconds on the wall clock and reads date and time of day off the sum. What
is read off is in the calendar and stands for exactly that number of microseconds, so every carry,
over days, months, leap years and years, is the one that the calendar makes.

* `daysBeforeYear_yearOfDays`: a day is in the year that is found for it;
* `splitMonths_spec`: **the month and day that are found are there and add up**;
* `Date.ofOrdinal_spec`: the date of a number is in the calendar and has that number;
* `DateTime.toUtc?_isUtcOf`: **a shifted time is on UTC and denotes the instant it was shifted
  from**.
-/

namespace Sluice

namespace Calendar

/-! ## 1. Years -/

/-- **A day is in the year that is found for it**: the year has begun and the next one has not. The
average year of 146097 / 400 days is off by less than two days, so the year is one of three. -/
theorem daysBeforeYear_yearOfDays (n : Nat) :
    1 ≤ yearOfDays n ∧ daysBeforeYear (yearOfDays n) ≤ n ∧
      n < daysBeforeYear (yearOfDays n + 1) := by
  have hlow : daysBeforeYear (n * 400 / 146097) ≤ n := by
    unfold daysBeforeYear
    dsimp only
    omega
  have hhigh : n < daysBeforeYear (n * 400 / 146097 + 3) := by
    unfold daysBeforeYear
    dsimp only
    omega
  have hfirst : n * 400 / 146097 = 0 → daysBeforeYear (n * 400 / 146097 + 1) ≤ n := by
    intro h
    rw [h]
    exact Nat.zero_le n
  unfold yearOfDays
  dsimp only
  generalize n * 400 / 146097 = k at *
  by_cases hbefore : n < daysBeforeYear (k + 1)
  · rw [if_pos hbefore, Nat.add_sub_cancel]
    have hk : k ≠ 0 := fun h => Nat.not_lt.mpr (hfirst h) hbefore
    exact ⟨Nat.one_le_iff_ne_zero.mpr hk, hlow, hbefore⟩
  · rw [if_neg hbefore]
    by_cases hafter : daysBeforeYear (k + 1 + 1) ≤ n
    · rw [if_pos hafter]
      exact ⟨Nat.succ_le_succ (Nat.zero_le _), hafter, hhigh⟩
    · rw [if_neg hafter]
      exact ⟨Nat.succ_le_succ (Nat.zero_le _), Nat.not_lt.mp hbefore, Nat.not_le.mp hafter⟩

/-- The days of the calendar are in its years. -/
theorem yearOfDays_le {n : Nat} (h : n < lastOrdinal) : yearOfDays n ≤ 9999 := by
  obtain ⟨-, hbegun, -⟩ := daysBeforeYear_yearOfDays n
  by_contra hlate
  have hmono := daysBeforeYear_mono (by decide : 1 ≤ 10000) (Nat.not_le.mp hlate)
  have hlast : daysBeforeYear 10000 = lastOrdinal := by decide
  omega

/-! ## 2. Months -/

/-- **The month and day that are found are there and add up**: as many months are behind them as the
number says, the day is one of its month, and the days before it are those that were asked for. -/
theorem splitMonths_spec {lengths : List Nat} (first : Nat) {rest : Nat} (h : rest < lengths.sum) :
    ∃ k < lengths.length, ∃ day, splitMonths first lengths rest = (first + k, day + 1) ∧
      day < lengths.getD k 0 ∧ (lengths.take k).sum + day = rest := by
  induction lengths generalizing first rest with
  | nil => exact absurd h (Nat.not_lt_zero rest)
  | cons length lengths ih =>
    unfold splitMonths
    by_cases hmonth : rest < length
    · rw [if_pos hmonth]
      exact ⟨0, Nat.succ_pos _, rest, rfl, hmonth, Nat.zero_add rest⟩
    · rw [if_neg hmonth]
      rw [List.sum_cons] at h
      have hrest : rest - length < lengths.sum := by omega
      obtain ⟨k, hk, day, hsplit, hday, hsum⟩ := ih (first + 1) hrest
      refine ⟨k + 1, Nat.succ_lt_succ hk, day, ?_, hday, ?_⟩
      · rw [hsplit, Nat.add_assoc, Nat.add_comm 1 k]
      · rw [List.take_succ_cons, List.sum_cons]
        omega

end Calendar

open Calendar

/-! ## 3. Dates -/

namespace Date

/-- The date of a number is in the calendar and has that number. -/
theorem ofOrdinal_spec {n : Nat} (hn : 1 ≤ n) (hlast : n ≤ lastOrdinal) :
    (ofOrdinal n).isValid = true ∧ (ofOrdinal n).ordinal = n := by
  obtain ⟨hyear, hbegun, hover⟩ := daysBeforeYear_yearOfDays (n - 1)
  have hyear' : yearOfDays (n - 1) ≤ 9999 := yearOfDays_le (by omega)
  unfold ofOrdinal
  dsimp only
  generalize yearOfDays (n - 1) = year at *
  rw [daysBeforeYear_succ hyear] at hover
  unfold daysOfYear at hover
  have hrest : n - 1 - daysBeforeYear year < (monthLengths year).sum := by omega
  obtain ⟨k, hk, day, hsplit, hday, hsum⟩ := splitMonths_spec 1 hrest
  have hk' : k < 12 := hk
  rw [hsplit]
  have hmonth : 1 + k - 1 = k := Nat.add_sub_cancel_left 1 k
  constructor
  · refine isValid_iff.mpr ⟨⟨hyear, hyear'⟩, ⟨by dsimp only; omega, by dsimp only; omega⟩,
      Nat.succ_pos day, ?_⟩
    dsimp only
    rw [hmonth]
    exact hday
  · unfold ordinal
    dsimp only
    rw [daysBeforeMonth_eq, hmonth]
    omega

end Date

/-! ## 4. Times -/

namespace DateTime

/-- The time of a number of microseconds is in the calendar, and its wall clock shows that
number. -/
theorem ofWall?_spec {offset : Option Int} {n : Int} {t : DateTime}
    (h : ofWall? offset n = some t) : t.offset = offset ∧ t.IsValid ∧ t.wall = n := by
  have hdiv : n.fdiv 86400000000 = n / 86400000000 := Int.fdiv_eq_ediv_of_nonneg n (by decide)
  have hmod : n.fmod 86400000000 = n % 86400000000 := Int.fmod_eq_emod_of_nonneg n (by decide)
  unfold ofWall? Date.ofOrdinal? at h
  rw [hdiv, hmod] at h
  split at h
  · cases h
  · next date hdate =>
    split at hdate
    · next hrange =>
      cases hdate
      cases h
      obtain ⟨hvalid, hordinal⟩ := Date.ofOrdinal_spec
        (n := (n / 86400000000 + 1).toNat) (by omega) (by omega)
      refine ⟨rfl, ⟨hvalid, ?hour, ?minute, ?second, ?microsecond⟩, ?wall⟩
      case wall =>
        unfold wall secondOfDay
        dsimp only
        rw [hordinal]
        omega
      all_goals
        dsimp only
        omega
    · cases hdate

/-- **A time is the one on UTC that denotes the instant of another**, a time without an offset being
read as UTC. It is a time of the calendar if the other one is. -/
structure IsUtcOf (t raw : DateTime) : Prop where
  offset : t.offset = some 0
  instant : t.instant = raw.instant
  isValid : raw.IsValid → t.IsValid

/-- **A shifted time is on UTC and denotes the instant it was shifted from.** -/
theorem toUtc?_isUtcOf {t utc : DateTime} (h : t.toUtc? = some utc) : utc.IsUtcOf t := by
  unfold toUtc? at h
  split at h
  · next hnaive =>
    cases h
    refine ⟨rfl, ?_, fun hvalid => ?_⟩
    · unfold instant
      rw [hnaive]
      rfl
    · exact ⟨hvalid.date, hvalid.hour, hvalid.minute, hvalid.second, hvalid.microsecond⟩
  · next offset hoffset =>
    split at h
    · next hzero =>
      cases h
      exact ⟨hzero ▸ hoffset, rfl, id⟩
    · obtain ⟨hutc, hvalid, hwall⟩ := ofWall?_spec h
      refine ⟨hutc, ?_, fun _ => hvalid⟩
      -- on UTC the wall clock shows the instant
      have hinstant : utc.instant = utc.wall := by
        unfold instant
        rw [hutc]
        exact Int.sub_zero utc.wall
      exact hinstant.trans hwall

/-- The wall clock of UTC shows the instant. -/
theorem wall_withoutOffset {t : DateTime} (h : t.offset = some 0) :
    t.withoutOffset.wall = t.instant := by
  unfold instant
  rw [h]
  simp [withoutOffset, wall, secondOfDay]

end DateTime

end Sluice
