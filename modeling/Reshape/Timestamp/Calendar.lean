/-!
# The calendar

Dates of the proleptic Gregorian calendar and the numbers of their days, counted
from 1970-01-01.  Years are taken to start in March, which puts the leap day at
the end of a year and the leap year at the end of each cycle.
-/

namespace Reshape

structure Date where
  year : Int
  month : Nat
  day : Nat
  deriving DecidableEq, Repr

namespace Date

def isLeapYear (year : Int) : Bool :=
  year % 4 == 0 && (year % 100 != 0 || year % 400 == 0)

def daysInMonth (year : Int) (month : Nat) : Nat :=
  if month = 2 then if isLeapYear year then 29 else 28
  else if month = 4 ∨ month = 6 ∨ month = 9 ∨ month = 11 then 30
  else 31

def Exists (date : Date) : Prop :=
  1 ≤ date.month ∧ date.month ≤ 12 ∧
    1 ≤ date.day ∧ date.day ≤ daysInMonth date.year date.month

instance (date : Date) : Decidable date.Exists :=
  inferInstanceAs (Decidable (_ ∧ _))

/-- The days from the first of March to the first of the month that is `month` months on. -/
def daysBeforeMonth (month : Nat) : Nat := (153 * month + 2) / 5

/-- The days from 0000-03-01 to 1970-01-01. -/
def epoch : Int := 719468

def dayNumber (date : Date) : Int :=
  let year := if date.month ≤ 2 then date.year - 1 else date.year
  let month := if date.month ≤ 2 then date.month + 9 else date.month - 3
  let yearOfCycle := (year % 400).toNat
  let days := 365 * yearOfCycle + yearOfCycle / 4 - yearOfCycle / 100 +
    daysBeforeMonth month + (date.day - 1)
  146097 * (year / 400) + days - epoch

def ofDayNumber (number : Int) : Date :=
  let day := number + epoch
  let dayOfCycle := (day % 146097).toNat
  let century := min (dayOfCycle / 36524) 3
  let dayOfCentury := dayOfCycle - 36524 * century
  let leapCycle := dayOfCentury / 1461
  let dayOfLeapCycle := dayOfCentury % 1461
  let yearOfLeapCycle := min (dayOfLeapCycle / 365) 3
  let dayOfYear := dayOfLeapCycle - 365 * yearOfLeapCycle
  let year := 400 * (day / 146097) + ↑(100 * century + 4 * leapCycle + yearOfLeapCycle)
  let month := (5 * dayOfYear + 2) / 153
  let dayOfMonth := dayOfYear - daysBeforeMonth month + 1
  if month < 10 then ⟨year, month + 3, dayOfMonth⟩ else ⟨year + 1, month - 9, dayOfMonth⟩

end Date

end Reshape
