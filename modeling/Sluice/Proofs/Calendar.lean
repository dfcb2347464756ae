import Sluice.Calendar
import Mathlib

/-!
# Dates by number

The numbers of the days are in the order of the calendar: a later year, a later month of one year and
a later day of one month have greater numbers. So a date of the calendar is known by its number, and
a time of day without an offset by the microseconds on the wall clock.

* `daysBeforeYear_succ`: **a year has 365 days, and one more when it is a leap year**;
* `Date.ordinal_lt`: later dates have greater numbers;
* `Date.ordinal_inj`, `DateTime.wall_inj`: **dates and times are known by their numbers**.
-/

namespace Sluice

namespace Calendar

/-- The number of days of a year. -/
def daysOfYear (year : Nat) : Nat := (monthLengths year).sum

theorem isLeap_iff {year : Nat} :
    isLeap year = true ↔ 4 ∣ year ∧ (¬ 100 ∣ year ∨ 400 ∣ year) := by
  unfold isLeap
  simp only [Bool.and_eq_true, Bool.or_eq_true, beq_iff_eq, bne_iff_ne, Nat.dvd_iff_mod_eq_zero,
    ne_eq]

theorem daysOfYear_eq (year : Nat) : daysOfYear year = 365 + if isLeap year then 1 else 0 := by
  unfold daysOfYear monthLengths
  cases isLeap year <;> rfl

/-- **A year begins when the one before it is over.** -/
theorem daysBeforeYear_succ {year : Nat} (h : 1 ≤ year) :
    daysBeforeYear (year + 1) = daysBeforeYear year + daysOfYear year := by
  obtain ⟨y, rfl⟩ := Nat.exists_eq_add_of_le' h
  have hcenturies : y / 100 ≤ y / 4 := Nat.div_le_div_left (by decide) (by decide)
  have h100 : 100 ∣ y + 1 → 4 ∣ y + 1 := (Dvd.intro 25 rfl : 4 ∣ 100).trans
  have h400 : 400 ∣ y + 1 → 100 ∣ y + 1 := (Dvd.intro 4 rfl : 100 ∣ 400).trans
  -- each of the three quotients grows by one in the years that its divisor divides
  have hquarters := Nat.succ_div (a := y) (b := 4)
  have hcenturies' := Nat.succ_div (a := y) (b := 100)
  have hcycles := Nat.succ_div (a := y) (b := 400)
  rw [daysOfYear_eq]
  unfold daysBeforeYear
  simp only [isLeap_iff, Nat.add_sub_cancel]
  by_cases hcycle : 400 ∣ y + 1
  · have hcentury := h400 hcycle
    have hquarter := h100 hcentury
    rw [if_pos hcycle] at hcycles
    rw [if_pos hcentury] at hcenturies'
    rw [if_pos hquarter] at hquarters
    rw [if_pos ⟨hquarter, .inr hcycle⟩]
    omega
  · rw [if_neg hcycle] at hcycles
    by_cases hcentury : 100 ∣ y + 1
    · rw [if_pos hcentury] at hcenturies'
      rw [if_pos (h100 hcentury)] at hquarters
      rw [if_neg fun hleap => hleap.2.elim (· hcentury) hcycle]
      omega
    · rw [if_neg hcentury] at hcenturies'
      by_cases hquarter : 4 ∣ y + 1
      · rw [if_pos hquarter] at hquarters
        rw [if_pos ⟨hquarter, .inl hcentury⟩]
        omega
      · rw [if_neg hquarter] at hquarters
        rw [if_neg fun hleap => hquarter hleap.1]
        omega

theorem daysBeforeYear_mono {year later : Nat} (h : 1 ≤ year) (hle : year ≤ later) :
    daysBeforeYear year ≤ daysBeforeYear later := by
  induction later, hle using Nat.le_induction with
  | base => exact le_rfl
  | succ later hle ih =>
    rw [daysBeforeYear_succ (h.trans hle)]
    exact ih.trans (Nat.le_add_right ..)

theorem daysBeforeMonth_eq (year month : Nat) :
    daysBeforeMonth year month = ((monthLengths year).take (month - 1)).sum :=
  List.sum_eq_foldl.symm

theorem sum_take_mono (lengths : List Nat) {m n : Nat} (h : m ≤ n) :
    (lengths.take m).sum ≤ (lengths.take n).sum :=
  (List.take_sublist_take_left h).sum_le_sum fun _ _ => Nat.zero_le _

/-- A day of a month lies before the next month. -/
theorem day_le {year month day : Nat} (hmonth : 1 ≤ month ∧ month ≤ 12)
    (hday : day ≤ (monthLengths year).getD (month - 1) 0) :
    daysBeforeMonth year month + day ≤ ((monthLengths year).take month).sum := by
  have hlt : month - 1 < (monthLengths year).length := by
    change month - 1 < 12
    omega
  have htake := List.take_succ_eq_append_getElem hlt
  rw [Nat.sub_add_cancel hmonth.1] at htake
  rw [List.getD_eq_getElem?_getD, List.getElem?_eq_getElem hlt, Option.getD_some] at hday
  rw [daysBeforeMonth_eq, htake, List.sum_append, List.sum_singleton]
  exact Nat.add_le_add_left hday _

end Calendar

open Calendar

namespace Date

/-- What makes a date one of the calendar. -/
theorem isValid_iff {d : Date} : d.isValid = true ↔
    (1 ≤ d.year ∧ d.year ≤ 9999) ∧ (1 ≤ d.month ∧ d.month ≤ 12) ∧
      1 ≤ d.day ∧ d.day ≤ (monthLengths d.year).getD (d.month - 1) 0 := by
  unfold isValid
  simp only [Bool.and_eq_true, decide_eq_true_eq, and_assoc]

/-- **Later dates have greater numbers.** -/
theorem ordinal_lt {d e : Date} (hd : d.isValid = true) (he : e.isValid = true)
    (h : d.year < e.year ∨
      d.year = e.year ∧ (d.month < e.month ∨ d.month = e.month ∧ d.day < e.day)) :
    d.ordinal < e.ordinal := by
  obtain ⟨⟨hyear, -⟩, hmonth, -, hlast⟩ := isValid_iff.mp hd
  obtain ⟨-, -, hfirst, -⟩ := isValid_iff.mp he
  have hday := day_le hmonth hlast
  unfold ordinal
  rcases h with hlater | ⟨hsame, hlater | ⟨hmonth', hlater⟩⟩
  · have hall := sum_take_mono (monthLengths d.year) hmonth.2
    have hyears := daysBeforeYear_mono (Nat.le_succ_of_le hyear) hlater
    rw [daysBeforeYear_succ hyear] at hyears
    change _ ≤ daysOfYear d.year at hall
    omega
  · have hmonths := sum_take_mono (monthLengths d.year) (Nat.le_sub_one_of_lt hlater)
    rw [← hsame, daysBeforeMonth_eq d.year e.month]
    omega
  · rw [hsame, hmonth']
    exact Nat.add_lt_add_left hlater _

/-- **A date of the calendar is known by its number.** -/
theorem ordinal_inj {d e : Date} (hd : d.isValid = true) (he : e.isValid = true)
    (h : d.ordinal = e.ordinal) : d = e := by
  have hde := mt (ordinal_lt hd he) (Nat.not_lt.mpr h.ge)
  have hed := mt (ordinal_lt he hd) (Nat.not_lt.mpr h.le)
  obtain ⟨year, month, day⟩ := d
  obtain ⟨year', month', day'⟩ := e
  dsimp only at hde hed
  have hyear : year = year' := by omega
  have hmonth : month = month' := by omega
  have hday : day = day' := by omega
  rw [hyear, hmonth, hday]

theorem ordinal_pos {d : Date} (hd : d.isValid = true) : 1 ≤ d.ordinal := by
  obtain ⟨-, -, hfirst, -⟩ := isValid_iff.mp hd
  unfold ordinal
  omega

end Date

namespace DateTime

/-- A time that the calendar and the clock have. -/
structure IsValid (t : DateTime) : Prop where
  date : t.date.isValid = true
  hour : t.hour < 24
  minute : t.minute < 60
  second : t.second < 60
  microsecond : t.microsecond < 1000000

/-- **A time is known by the microseconds on the wall clock**, up to its offset. -/
theorem wall_inj {s t : DateTime} (hs : s.IsValid) (ht : t.IsValid) (hoffset : s.offset = t.offset)
    (h : s.wall = t.wall) : s = t := by
  obtain ⟨hdate, hhour, hminute, hsecond, hmicrosecond⟩ := hs
  obtain ⟨hdate', hhour', hminute', hsecond', hmicrosecond'⟩ := ht
  have hpos := Date.ordinal_pos hdate
  have hpos' := Date.ordinal_pos hdate'
  unfold wall secondOfDay at h
  have hsame : s.date = t.date := Date.ordinal_inj hdate hdate' (by omega)
  rw [hsame] at h
  clear hdate hdate' hpos
  obtain ⟨date, hour, minute, second, microsecond, offset⟩ := s
  obtain ⟨date', hour', minute', second', microsecond', offset'⟩ := t
  dsimp only at *
  have hhours : hour = hour' := by omega
  have hminutes : minute = minute' := by omega
  have hseconds : second = second' := by omega
  have hmicroseconds : microsecond = microsecond' := by omega
  rw [hsame, hoffset, hhours, hminutes, hseconds, hmicroseconds]

end DateTime

end Sluice
