import Intake.Calendar.Civil
import Intake.Text.Digits

/-!
# Instants

A point in time in coordinated universal time, to the nanosecond. A leap second is written into
the nanoseconds, of which a second may hold up to two seconds. Only the last second of a minute is followed
by a leap second, and only there has it a text of its own; but the nanoseconds of an instant may be set
freely, and so it may hold a leap second anywhere.

An instant is made from a local date, a time of day and an offset, and is written as a date, a
time and `Z`.
-/

set_option autoImplicit false

namespace Intake

open Intake.Text

/-- A point in time. -/
structure Instant where
  /-- Whole seconds since the first of January 1970, rounded down. -/
  seconds : Int
  /-- Nanoseconds after that second; 10^9 and more within a leap second. -/
  nanos : Nat
  /-- The instant lies in the supported range of years. -/
  valid : -8334601228800 ≤ seconds ∧ seconds ≤ 8210266876799 ∧ nanos < 2000000000
deriving DecidableEq, Hashable

/-- A time of day; the second 60 is a leap second. -/
structure TimeOfDay where
  /-- The hour. -/
  hour : Nat
  /-- The minute. -/
  minute : Nat
  /-- The second, up to 60. -/
  second : Nat
  /-- The nanoseconds. -/
  nanos : Nat

/-- Whether the parts of a time of day are in their ranges. -/
def TimeOfDay.isValid (time : TimeOfDay) : Bool :=
  time.hour ≤ 23 && time.minute ≤ 59 && time.second ≤ 60

/-- The beginning of a day. -/
def TimeOfDay.midnight : TimeOfDay := ⟨0, 0, 0, 0⟩

namespace Instant

/-- A leap second comes only after the last second of a minute. -/
def IsRegular (t : Instant) : Prop :=
  1000000000 ≤ t.nanos → t.seconds % 60 = 59

instance (t : Instant) : Decidable t.IsRegular :=
  inferInstanceAs (Decidable (1000000000 ≤ t.nanos → t.seconds % 60 = 59))

/-- The regular instant of a second and its nanoseconds, if there is one. -/
def ofSeconds? (seconds : Int) (nanos : Nat) : Option Instant :=
  if valid : -8334601228800 ≤ seconds ∧ seconds ≤ 8210266876799 ∧ nanos < 2000000000 then
    let t : Instant := ⟨seconds, nanos, valid⟩
    if t.IsRegular then some t else none
  else none

/-- The instant of a number of milliseconds since the first of January 1970. -/
def ofMilliseconds? (milliseconds : Int) : Option Instant :=
  ofSeconds? (milliseconds / 1000) ((milliseconds % 1000).toNat * 1000000)

/-- The instant at which clocks that are ahead by the given number of minutes show the date and
time. -/
def ofLocal? (date : CivilDate) (time : TimeOfDay) (offset : Int) : Option Instant :=
  if date.Valid ∧ time.isValid then
    let second := min time.second 59
    let leap := if time.second = 60 then 1000000000 else 0
    ofSeconds?
      (date.dayNumber * 86400 + time.hour * 3600 + time.minute * 60 + second - offset * 60)
      (time.nanos + leap)
  else none

/-- The date in coordinated universal time. -/
def date (t : Instant) : CivilDate :=
  CivilDate.ofDayNumber (t.seconds / 86400)

/-- The time of day in coordinated universal time. -/
def time (t : Instant) : TimeOfDay :=
  let secondOfDay := (t.seconds % 86400).toNat
  let leap := t.nanos / 1000000000
  { hour := secondOfDay / 3600
    minute := secondOfDay / 60 % 60
    second := secondOfDay % 60 + leap
    nanos := t.nanos % 1000000000 }

/-- Years of four digits are written plainly, all others with a sign and at least four digits. -/
def yearText (year : Int) : List Char :=
  if 0 ≤ year ∧ year ≤ 9999 then padded 4 year.toNat
  else (if year < 0 then '-' else '+') :: padded 4 year.natAbs

/-- The fraction of a second in the least of no, three, six or nine digits that is exact. -/
def fractionText (nanos : Nat) : List Char :=
  if nanos = 0 then []
  else if nanos % 1000000 = 0 then '.' :: padded 3 (nanos / 1000000)
  else if nanos % 1000 = 0 then '.' :: padded 6 (nanos / 1000)
  else '.' :: padded 9 nanos

/-- The instant as text: date, `T`, time of day and `Z`. -/
def text (t : Instant) : List Char :=
  let date := t.date
  let time := t.time
  yearText date.year ++ '-' :: padded 2 date.month ++ '-' :: padded 2 date.day
    ++ 'T' :: padded 2 time.hour ++ ':' :: padded 2 time.minute ++ ':' :: padded 2 time.second
    ++ fractionText time.nanos ++ ['Z']

end Instant

end Intake
