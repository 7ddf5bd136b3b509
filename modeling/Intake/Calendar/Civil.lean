/-!
# Civil dates

Dates of the Gregorian calendar, extended to all years, and their numbering by days since the
first of January 1970. Years begin in March for the arithmetic, so that the leap day is the last
day of its year and each month starts a fixed number of days into it.
-/

set_option autoImplicit false

namespace Intake

/-- A year, a month from 1 to 12 and a day of the month from 1. -/
structure CivilDate where
  /-- The year; year 0 precedes year 1. -/
  year : Int
  /-- The month. -/
  month : Nat
  /-- The day of the month. -/
  day : Nat
deriving DecidableEq

namespace CivilDate

/-- Whether the year has a leap day. -/
def isLeapYear (year : Int) : Bool :=
  year % 4 == 0 && (year % 100 != 0 || year % 400 == 0)

/-- The number of days of a month. -/
def daysInMonth (year : Int) (month : Nat) : Nat :=
  if month = 2 then (if isLeapYear year then 29 else 28)
  else if month = 4 ∨ month = 6 ∨ month = 9 ∨ month = 11 then 30
  else 31

/-- The first year of the supported range. -/
def firstYear : Int := -262143

/-- The last year of the supported range. -/
def lastYear : Int := 262142

/-- Whether the date exists and lies in the supported range of years. -/
def Valid (date : CivilDate) : Prop :=
  firstYear ≤ date.year ∧ date.year ≤ lastYear ∧ 1 ≤ date.month ∧ date.month ≤ 12
    ∧ 1 ≤ date.day ∧ date.day ≤ daysInMonth date.year date.month

instance (date : CivilDate) : Decidable date.Valid := by
  unfold Valid; infer_instance

/-- Days from the first of March to the first day of a month, months counted from March as 0. -/
def daysBeforeMonth (monthFromMarch : Int) : Int :=
  (153 * monthFromMarch + 2) / 5

/-- Days from the first of March of year 0 to the first of March of a year. -/
def daysBeforeYear (year : Int) : Int :=
  365 * year + year / 4 - year / 100 + year / 400

/-- The day number of the first of March of year 0, counted back from the first of January 1970. -/
def marchOfYearZero : Int := 719468

/-- The number of days from the first of January 1970 to the date. -/
def dayNumber (date : CivilDate) : Int :=
  let year := if date.month ≤ 2 then date.year - 1 else date.year
  daysBeforeYear year + daysBeforeMonth ((date.month + 9) % 12 : Nat) + date.day - 1
    - marchOfYearZero

/-- The date of a day number. The day is located in its cycle of 400 years, then in its year, then
in its month. -/
def ofDayNumber (n : Int) : CivilDate :=
  let sinceMarch := n + marchOfYearZero
  let cycle := sinceMarch / 146097
  let dayOfCycle := sinceMarch % 146097
  let yearOfCycle :=
    (dayOfCycle - dayOfCycle / 1460 + dayOfCycle / 36524 - dayOfCycle / 146096) / 365
  let dayOfYear := dayOfCycle - daysBeforeYear yearOfCycle
  let monthFromMarch := (5 * dayOfYear + 2) / 153
  let month := if monthFromMarch < 10 then monthFromMarch + 3 else monthFromMarch - 9
  let year := yearOfCycle + cycle * 400
  { year := if month ≤ 2 then year + 1 else year
    month := month.toNat
    day := (dayOfYear - daysBeforeMonth monthFromMarch + 1).toNat }

/-- The day of the week, Monday as 0. -/
def weekday (date : CivilDate) : Int :=
  (date.dayNumber + 3) % 7

end CivilDate

end Intake
