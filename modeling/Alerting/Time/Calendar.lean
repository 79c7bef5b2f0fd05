/-!
# The calendar

Days of the proleptic Gregorian calendar, numbered from 1970-01-01. Years are counted from March for
the sum, so that the day that leap years add is the last one of its year.
-/

namespace Alerting

/-- A year, a month from 1 to 12 and a day from 1. -/
structure Date where
  year : Int
  month : Nat
  day : Nat
  deriving DecidableEq

namespace Date

def isLeapYear (year : Int) : Bool := year % 4 == 0 && (year % 100 != 0 || year % 400 == 0)

def daysInMonth (year : Int) (month : Nat) : Nat :=
  if month = 2 then (if isLeapYear year then 29 else 28)
  else if month = 4 ∨ month = 6 ∨ month = 9 ∨ month = 11 then 30
  else 31

def IsValid (d : Date) : Prop :=
  1 ≤ d.month ∧ d.month ≤ 12 ∧ 1 ≤ d.day ∧ d.day ≤ daysInMonth d.year d.month

instance (d : Date) : Decidable d.IsValid := inferInstanceAs (Decidable (_ ∧ _ ∧ _ ∧ _))

/-- The days of the year before a month, where the year starts in March and the month is counted
from it. -/
def daysBeforeMonth (month : Nat) : Nat := (153 * month + 2) / 5

/-- The days before a year that starts in March, from the first of March of the year 0. -/
def daysBeforeYear (year : Int) : Int := 365 * year + year / 4 - year / 100 + year / 400

/-- The number of 1970-01-01 from the first of March of the year 0. -/
def epochDay : Int := 719468

/-- The number of the day, from 1970-01-01. -/
def toDays (d : Date) : Int :=
  let year := if d.month ≤ 2 then d.year - 1 else d.year
  daysBeforeYear year + daysBeforeMonth ((d.month + 9) % 12) + d.day - 1 - epochDay

/-- The day of a number, from 1970-01-01. -/
def ofDays (days : Int) : Date :=
  let n := days + epochDay
  let cycle := n / 146097
  let inCycle := n % 146097
  let yearInCycle := (inCycle - inCycle / 1460 + inCycle / 36524 - inCycle / 146096) / 365
  let inYear := (inCycle - daysBeforeYear yearInCycle).toNat
  let month := (5 * inYear + 2) / 153
  let year := yearInCycle + 400 * cycle
  { year := if month < 10 then year else year + 1
    month := if month < 10 then month + 3 else month - 9
    day := inYear - daysBeforeMonth month + 1 }

end Date

end Alerting
