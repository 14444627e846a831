import Mathlib.Tactic.IntervalCases
import Mathlib.Tactic.Ring
import Redaction.Render.TimeReader

/-!
# The calendar counts every day

The leaps through the cycles of the calendar find, for every day before or after 1970, a date that
the rules of the calendar allow (`isValid_ofDays`) and that is just so many days away by them
(`dayNumber_ofDays`). Years follow each other as days do (`year_ofDays_lt_iff`).

* `ofDays_eq`: the leaps end at a day of a year that starts in March.
* `isValid_ofYearDay`, `dayNumber_ofYearDay`: what date that is.
-/

namespace Redaction.Render.Date

variable {d : Date} {year : Int} {month n : Nat}

/-! ### Years and months -/

/-- A year has 365 days or, if it is a leap year, 366. -/
theorem daysBeforeYear_succ (year : Int) :
    daysBeforeYear (year + 1) = daysBeforeYear year + if IsLeap year then 366 else 365 := by
  unfold daysBeforeYear IsLeap
  split_ifs with h <;> omega

theorem daysBeforeYear_mono {y y' : Int} (h : y ≤ y') : daysBeforeYear y ≤ daysBeforeYear y' := by
  unfold daysBeforeYear
  omega

/-- From March on, five months have 153 days. -/
theorem daysBeforeMonth_add_three (year : Int) (h : month < 10) :
    daysBeforeMonth year (month + 3) = (153 * month + 2) / 5 + if IsLeap year then 60 else 59 := by
  unfold daysBeforeMonth
  interval_cases month <;> simp [daysInMonth, List.range'] <;> split_ifs <;> rfl

/-- January and February are the last two months of a year that starts in March. -/
theorem daysBeforeMonth_sub_nine (year : Int) (h : 10 ≤ month) (hlt : month < 12) :
    daysBeforeMonth year (month - 9) = (153 * month + 2) / 5 - 306 := by
  obtain rfl | rfl : month = 10 ∨ month = 11 := by omega
  · rfl
  · rfl

/-- A date of the calendar is not behind the end of its year. -/
theorem IsValid.daysBeforeMonth_add_le (h : d.IsValid) :
    daysBeforeMonth d.year d.month + d.day ≤ if IsLeap d.year then 366 else 365 := by
  obtain ⟨year, month, day⟩ := d
  obtain ⟨⟨h1, h12⟩, -, hday⟩ := h
  dsimp only at h1 h12 hday ⊢
  unfold daysBeforeMonth
  interval_cases month <;> simp [daysInMonth, List.range'] at hday ⊢ <;> split_ifs at * <;> omega

/-! ### Years that start in March -/

/-- The day `n` of such a year is one of the calendar; only before a leap year is there a day 365,
the 29 February. -/
theorem isValid_ofYearDay (hn : n ≤ 365) (hleap : n = 365 → IsLeap (year + 1)) :
    (ofYearDay year n).IsValid := by
  unfold ofYearDay
  generalize hmonth : (5 * n + 2) / 153 = month
  have hlt : month < 12 := by omega
  dsimp only
  split_ifs with h
  · refine ⟨by dsimp only; omega, ?_⟩
    dsimp only [daysInMonth]
    interval_cases month <;> simp <;> omega
  · refine ⟨by dsimp only; omega, ?_⟩
    dsimp only [daysInMonth]
    obtain rfl | rfl : month = 10 ∨ month = 11 := by omega
    · simp
      omega
    · rcases Nat.lt_or_eq_of_le hn with hn | rfl
      · simp
        split_ifs <;> omega
      · simp [hleap rfl]

theorem dayNumber_ofYearDay (year : Int) (hn : n ≤ 365) :
    (ofYearDay year n).dayNumber = daysBeforeYear (year + 1) + n - epoch := by
  have hfirst : daysBeforeYear 1970 = 719162 := rfl
  unfold ofYearDay
  generalize hmonth : (5 * n + 2) / 153 = month
  have hlt : month < 12 := by omega
  dsimp only
  split_ifs with h
  · rw [dayNumber, hfirst, daysBeforeYear_succ, daysBeforeMonth_add_three year h, epoch]
    split_ifs <;> push_cast <;> omega
  · rw [dayNumber, hfirst, daysBeforeMonth_sub_nine (year + 1) (not_lt.mp h) hlt, epoch]
    dsimp only
    omega

/-! ### Leaps -/

/-- Whole cycles of 400 years, centuries, cycles of four years and years, in days. -/
theorem daysBeforeYear_leaps (cycle : Int) {century leapCycle year : Nat} (hcentury : century ≤ 3)
    (hleapCycle : leapCycle ≤ 24) (hyear : year ≤ 3) :
    daysBeforeYear (400 * cycle + 100 * century + 4 * leapCycle + year + 1) =
      daysOfCycle * cycle + daysOfCentury * century + daysOfLeapCycle * leapCycle + 365 * year := by
  have h4 : (400 * cycle + 100 * century + 4 * leapCycle + year) / 4 =
      100 * cycle + 25 * century + leapCycle := by omega
  have h100 : (400 * cycle + 100 * century + 4 * leapCycle + year) / 100 =
      4 * cycle + century := by omega
  have h400 : (400 * cycle + 100 * century + 4 * leapCycle + year) / 400 = cycle := by omega
  rw [daysBeforeYear, add_sub_cancel_right, h4, h100, h400, daysOfCycle, daysOfCentury,
    daysOfLeapCycle]
  push_cast
  ring

/-- **The leaps end at a day of a year that starts in March,** and have gone over all days before
it. The last day of four years, and that of a cycle, are the 366th of their years. -/
theorem ofDays_eq (days : Int) : ∃ (year : Int) (n : Nat), ofDays days = ofYearDay year n ∧
    n ≤ 365 ∧ (n = 365 → IsLeap (year + 1)) ∧ daysBeforeYear (year + 1) + n = days + epoch := by
  obtain ⟨cycle, hcycle⟩ : ∃ cycle, (days + epoch) / daysOfCycle = cycle := ⟨_, rfl⟩
  obtain ⟨n, hn⟩ : ∃ n, ((days + epoch) % daysOfCycle).toNat = n := ⟨_, rfl⟩
  obtain ⟨century, hcentury⟩ : ∃ century, min (n / daysOfCentury) 3 = century := ⟨_, rfl⟩
  obtain ⟨m, hm⟩ : ∃ m, n - century * daysOfCentury = m := ⟨_, rfl⟩
  obtain ⟨leapCycle, hleapCycle⟩ : ∃ leapCycle, m / daysOfLeapCycle = leapCycle := ⟨_, rfl⟩
  obtain ⟨k, hk⟩ : ∃ k, m % daysOfLeapCycle = k := ⟨_, rfl⟩
  obtain ⟨year, hyear⟩ : ∃ year, min (k / 365) 3 = year := ⟨_, rfl⟩
  have hdate : ofDays days = ofYearDay (400 * cycle + 100 * century + 4 * leapCycle + year)
      (k - year * 365) := by
    unfold ofDays
    simp only [hcycle, hn, hcentury, hm, hleapCycle, hk, hyear]
  simp only [daysOfCycle, daysOfCentury, daysOfLeapCycle] at hcycle hn hcentury hm hleapCycle hk
  have hdays : days + epoch = 146097 * cycle + n ∧ n < 146097 := by omega
  have hcentury : century ≤ 3 ∧ n = 36524 * century + m ∧ m ≤ 36524 ∧
      (m = 36524 → century = 3) := by omega
  have hleapCycle : leapCycle ≤ 24 ∧ m = 1461 * leapCycle + k ∧ k < 1461 := by omega
  have hyear : year ≤ 3 ∧ 365 * year ≤ k ∧ k - 365 * year ≤ 365 ∧
      (k - 365 * year = 365 → year = 3) := by omega
  refine ⟨_, _, hdate, by omega, fun h => ?_, ?_⟩
  · unfold IsLeap
    omega
  · rw [daysBeforeYear_leaps cycle hcentury.1 hleapCycle.1 hyear.1, hdays.1, daysOfCycle,
      daysOfCentury, daysOfLeapCycle]
    push_cast
    omega

/-! ### All days -/

/-- **The date of a day is one of the calendar.** -/
theorem isValid_ofDays (days : Int) : (ofDays days).IsValid := by
  obtain ⟨year, n, hdate, hn, hleap, -⟩ := ofDays_eq days
  rw [hdate]
  exact isValid_ofYearDay hn hleap

/-- **The date of a day is so many days away.** -/
theorem dayNumber_ofDays (days : Int) : (ofDays days).dayNumber = days := by
  obtain ⟨year, n, hdate, hn, -, hdays⟩ := ofDays_eq days
  rw [hdate, dayNumber_ofYearDay year hn]
  omega

theorem dayNumber_newYear (year : Int) :
    dayNumber ⟨year, 1, 1⟩ = daysBeforeYear year - daysBeforeYear 1970 := by
  simp [dayNumber, daysBeforeMonth]

/-- **A day is in an earlier year exactly if it is before the first day of the year.** -/
theorem year_ofDays_lt_iff (days year : Int) :
    (ofDays days).year < year ↔ days < dayNumber ⟨year, 1, 1⟩ := by
  have hvalid := isValid_ofDays days
  have hdays := dayNumber_ofDays days
  generalize ofDays days = d at hvalid hdays ⊢
  have hend := hvalid.daysBeforeMonth_add_le
  have hday := hvalid.day.1
  have hsucc := daysBeforeYear_succ d.year
  rw [dayNumber] at hdays
  rw [dayNumber_newYear]
  constructor
  · intro h
    have hle := daysBeforeYear_mono (Int.add_one_le_of_lt h)
    split_ifs at hend hsucc <;> omega
  · intro h
    by_contra hge
    have hle := daysBeforeYear_mono (not_lt.mp hge)
    omega

end Redaction.Render.Date
