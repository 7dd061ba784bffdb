import OrgOutline.Fault

/-!
# Dates and times of day

The proleptic Gregorian calendar for the years 1 to 9999. A moment is counted in minutes from the first minute of the year
1 (`Moment.minutes`), so the time between two moments is a difference of integers. `Moment.check` refuses what is no moment
and names the first part that is out of its range.
-/

namespace OrgOutline

/-- Every fourth year is a leap year, except the centuries that 400 does not divide. -/
def isLeapYear (year : Nat) : Bool := year % 4 == 0 && (year % 100 != 0 || year % 400 == 0)

/-- The number of days of a month. -/
def daysInMonth (year month : Nat) : Nat :=
  if month = 2 then (if isLeapYear year then 29 else 28)
  else if month = 4 ∨ month = 6 ∨ month = 9 ∨ month = 11 then 30
  else 31

/-- The days from the first day of year 1 to the first day of a year. -/
def daysBeforeYear (year : Nat) : Nat :=
  let past := year - 1
  past * 365 + past / 4 - past / 100 + past / 400

/-- The days from the first day of a year to the first day of a month. -/
def daysBeforeMonth (year : Nat) : Nat → Nat
  | 0 => 0
  | 1 => 0
  | month + 1 => daysBeforeMonth year month + daysInMonth year month

/-- A day of the calendar and a minute of that day. -/
structure Moment where
  year : Nat
  month : Nat
  day : Nat
  hour : Nat
  minute : Nat
  deriving DecidableEq, Repr

namespace Moment

/-- The days from the first day of year 1 to the day of the moment. -/
def days (m : Moment) : Nat := daysBeforeYear m.year + daysBeforeMonth m.year m.month + (m.day - 1)

/-- The minutes from the start of year 1 to the moment. -/
def minutes (m : Moment) : Nat := (m.days * 24 + m.hour) * 60 + m.minute

/-- The moment of five integers, if each is in its range; year, month, day, hour and minute are tried in this order. -/
def check (year month day hour minute : Int) : Except DateFault Moment :=
  if ¬ (1 ≤ year ∧ year ≤ 9999) then .error (.year year)
  else if ¬ (1 ≤ month ∧ month ≤ 12) then .error .month
  else if ¬ (1 ≤ day ∧ day ≤ daysInMonth year.toNat month.toNat) then .error .day
  else if ¬ (0 ≤ hour ∧ hour ≤ 23) then .error .hour
  else if ¬ (0 ≤ minute ∧ minute ≤ 59) then .error .minute
  else .ok ⟨year.toNat, month.toNat, day.toNat, hour.toNat, minute.toNat⟩

end Moment
end OrgOutline
