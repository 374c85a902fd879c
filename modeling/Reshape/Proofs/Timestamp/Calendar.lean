import Mathlib.Tactic.IntervalCases
import Reshape.Timestamp.Calendar

/-!
# Days and dates

The date of a day exists and has the number of that day.  Both are shown for years
that start in March, where the days of a year differ only in whether there is a last
one, the leap day.
-/

namespace Reshape.Date

/-- The date of a day, counted from zero, in the year that starts in March of `year`. -/
def ofMarch (year : Int) (dayOfYear : Nat) : Date :=
  let month := (5 * dayOfYear + 2) / 153
  let dayOfMonth := dayOfYear - daysBeforeMonth month + 1
  if month < 10 then ⟨year, month + 3, dayOfMonth⟩
  else ⟨year + 1, month - 9, dayOfMonth⟩

theorem isLeapYear_iff {year : Int} :
    isLeapYear year = true ↔ year % 4 = 0 ∧ (year % 100 ≠ 0 ∨ year % 400 = 0) := by
  simp [isLeapYear]

/-- Centuries, leap cycles and years of a cycle of 400 years, and what is left of a day. -/
private theorem exists_parts {dayOfCycle : Nat} (h : dayOfCycle < 146097) :
    ∃ century leapCycle year dayOfYear : Nat,
      century = min (dayOfCycle / 36524) 3 ∧
        leapCycle = (dayOfCycle - 36524 * century) / 1461 ∧
        year = min ((dayOfCycle - 36524 * century) % 1461 / 365) 3 ∧
        dayOfYear = (dayOfCycle - 36524 * century) % 1461 - 365 * year ∧
        dayOfCycle = 36524 * century + 1461 * leapCycle + 365 * year + dayOfYear ∧
        century ≤ 3 ∧ leapCycle ≤ 24 ∧ year ≤ 3 ∧ dayOfYear ≤ 365 ∧
        (dayOfYear = 365 → year = 3 ∧ (leapCycle = 24 → century = 3)) := by
  obtain ⟨century, hcentury⟩ : ∃ century, century = min (dayOfCycle / 36524) 3 := ⟨_, rfl⟩
  obtain ⟨dayOfCentury, hdays⟩ : ∃ days, days = dayOfCycle - 36524 * century := ⟨_, rfl⟩
  obtain ⟨year, hyear⟩ : ∃ year, year = min (dayOfCentury % 1461 / 365) 3 := ⟨_, rfl⟩
  have hlimit : dayOfCentury ≤ 36524 ∧ (dayOfCentury = 36524 → century = 3) := by omega
  refine ⟨century, dayOfCentury / 1461, year, dayOfCentury % 1461 - 365 * year,
    hcentury, by rw [hdays], by rw [hyear, hdays], by rw [hdays], ?_⟩
  omega

/-- A year that starts in March has a last day 365 if it ends in a leap year. -/
theorem exists_ofMarch_eq (number : Int) :
    ∃ (cycle : Int) (yearOfCycle dayOfYear : Nat),
      ofDayNumber number = ofMarch (400 * cycle + yearOfCycle) dayOfYear ∧
        yearOfCycle < 400 ∧ dayOfYear ≤ 365 ∧
        (dayOfYear = 365 → isLeapYear (400 * cycle + yearOfCycle + 1) = true) ∧
        number = 146097 * cycle + (365 * yearOfCycle + yearOfCycle / 4 -
          yearOfCycle / 100 + dayOfYear : Nat) - epoch := by
  have hpositive : (0 : Int) < 146097 := by decide
  obtain ⟨dayOfCycle, hday⟩ := Int.eq_ofNat_of_zero_le
    (Int.emod_nonneg (number + epoch) (Int.ne_of_gt hpositive))
  have hbound := Int.emod_lt_of_pos (number + epoch) hpositive
  obtain ⟨century, leapCycle, year, dayOfYear, hcentury, hleapCycle, hyear, hdayOfYear,
    htotal, hcenturies, hleapCycles, hyears, hdays, hlast⟩ :=
      exists_parts (show dayOfCycle < 146097 by omega)
  refine ⟨(number + epoch) / 146097, 100 * century + 4 * leapCycle + year, dayOfYear,
    ?_, by omega, hdays, ?_, ?_⟩
  · simp only [ofDayNumber, ofMarch, hday, Int.toNat_natCast, ← hcentury, ← hleapCycle,
      ← hyear, ← hdayOfYear]
  · intro hleap
    obtain ⟨rfl, hlastCentury⟩ := hlast hleap
    rw [isLeapYear_iff]
    omega
  · have hleaps : (100 * century + 4 * leapCycle + year) / 4 = 25 * century + leapCycle := by
      omega
    have hcenturyOf : (100 * century + 4 * leapCycle + year) / 100 = century := by omega
    rw [hleaps, hcenturyOf]
    omega

/-! ## The two properties -/

private theorem dayNumber_ofMarch {cycle : Int} {yearOfCycle dayOfYear : Nat}
    (hyear : yearOfCycle < 400) (hday : dayOfYear ≤ 365) :
    (ofMarch (400 * cycle + yearOfCycle) dayOfYear).dayNumber =
      146097 * cycle + (365 * yearOfCycle + yearOfCycle / 4 -
        yearOfCycle / 100 + dayOfYear : Nat) - epoch := by
  have hcycle : (400 * cycle + yearOfCycle) / 400 = cycle := by omega
  have hrest : ((400 * cycle + yearOfCycle) % 400).toNat = yearOfCycle := by omega
  simp only [ofMarch]
  split
  · rename_i hmonth
    have hlate : ¬ (5 * dayOfYear + 2) / 153 + 3 ≤ 2 := by omega
    simp only [dayNumber, if_neg hlate, hcycle, hrest, Nat.add_sub_cancel]
    simp only [daysBeforeMonth]
    omega
  · rename_i hmonth
    have hearly : (5 * dayOfYear + 2) / 153 - 9 ≤ 2 := by omega
    have hback : 400 * cycle + yearOfCycle + 1 - 1 = 400 * cycle + yearOfCycle := by omega
    have hplace : (5 * dayOfYear + 2) / 153 - 9 + 9 = (5 * dayOfYear + 2) / 153 := by omega
    simp only [dayNumber, if_pos hearly, hback, hplace, hcycle, hrest, Nat.add_sub_cancel]
    simp only [daysBeforeMonth]
    omega

private theorem ofMarch_exists {year : Int} {dayOfYear : Nat} (hday : dayOfYear ≤ 365)
    (hleap : dayOfYear = 365 → isLeapYear (year + 1) = true) :
    (ofMarch year dayOfYear).Exists := by
  obtain ⟨month, hmonth⟩ : ∃ month, month = (5 * dayOfYear + 2) / 153 := ⟨_, rfl⟩
  have hbound : month < 12 := by omega
  simp only [ofMarch, ← hmonth]
  rcases Nat.lt_or_ge month 11 with hfull | hlast
  · interval_cases month <;>
      simp [Exists, daysBeforeMonth, daysInMonth] <;> omega
  · obtain rfl : month = 11 := by omega
    change 1 ≤ 2 ∧ 2 ≤ 12 ∧ 1 ≤ dayOfYear - 337 + 1 ∧
      dayOfYear - 337 + 1 ≤ if isLeapYear (year + 1) then 29 else 28
    split
    · omega
    · rename_i hcommon
      have hshort : dayOfYear ≠ 365 := fun hlong => hcommon (hleap hlong)
      omega

theorem dayNumber_ofDayNumber (number : Int) : (ofDayNumber number).dayNumber = number := by
  obtain ⟨cycle, yearOfCycle, dayOfYear, hdate, hyear, hday, -, hnumber⟩ :=
    exists_ofMarch_eq number
  rw [hdate, dayNumber_ofMarch hyear hday]
  exact hnumber.symm

theorem ofDayNumber_exists (number : Int) : (ofDayNumber number).Exists := by
  obtain ⟨cycle, yearOfCycle, dayOfYear, hdate, -, hday, hleap, -⟩ :=
    exists_ofMarch_eq number
  rw [hdate]
  exact ofMarch_exists hday hleap

end Reshape.Date
