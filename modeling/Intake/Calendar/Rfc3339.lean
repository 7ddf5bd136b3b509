import Intake.Calendar.Instant
import Intake.Calendar.Scan

/-!
# Dates of internet timestamps

The notation of RFC 3339: a date of fixed width, a separator, a time with seconds and an optional
fraction, and an offset. It is also the notation in which instants are written.
-/

set_option autoImplicit false

namespace Intake.Calendar.Rfc3339

/-- The separator of date and time: `T` in either case or a space. -/
def separator? : List Char → Option (List Char)
  | c :: rest => if c = 'T' ∨ c = 't' ∨ c = ' ' then some rest else none
  | [] => none

/-- The offset in minutes: `Z` in either case, or a sign, hours, a colon and minutes. The minus sign
may be the hyphen of ASCII or the sign of mathematics. -/
def offset? : List Char → Option (Int × List Char)
  | c :: rest =>
    if c = 'Z' ∨ c = 'z' then some (0, rest)
    else if c = '+' then
      (offsetDigits? (mark? ':') rest).map fun (minutes, after) => ((minutes : Int), after)
    else if c = '-' ∨ c = '\u2212' then
      (offsetDigits? (mark? ':') rest).map fun (minutes, after) => (-(minutes : Int), after)
    else none
  | [] => none

/-- Reads a timestamp that takes up the whole text. -/
def read? (cs : List Char) : Option Instant := do
  let (year, cs) ← number? 4 4 cs
  let cs ← mark? '-' cs
  let (month, cs) ← number? 2 2 cs
  let cs ← mark? '-' cs
  let (day, cs) ← number? 2 2 cs
  let cs ← separator? cs
  let (hour, cs) ← number? 2 2 cs
  let cs ← mark? ':' cs
  let (minute, cs) ← number? 2 2 cs
  let cs ← mark? ':' cs
  let (second, cs) ← number? 2 2 cs
  let (nanos, cs) ← fraction? cs
  let (offset, cs) ← offset? cs
  if cs = [] then
    Instant.ofLocal? ⟨year, month, day⟩ ⟨hour, minute, second, nanos⟩ offset
  else none

end Intake.Calendar.Rfc3339
