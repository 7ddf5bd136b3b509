import Intake.Calendar.Instant
import Intake.Calendar.Scan

/-!
# Dates without an offset

A year, month and day joined by hyphens, alone or followed by a time of day. Times are in
coordinated universal time. Each number may have fewer digits than its place allows, and blanks
before it.
-/

set_option autoImplicit false

namespace Intake.Calendar.Plain

open Intake.Text

/-- A number of one or two digits after any blanks. -/
def field? (cs : List Char) : Option (Nat × List Char) :=
  number? 1 2 (trimStart cs)

/-- A year after any blanks: up to four digits, or any number of them after a sign. -/
def year? (cs : List Char) : Option (Int × List Char) :=
  match trimStart cs with
  | '-' :: rest => (number? 1 rest.length rest).map fun (n, after) => (-(n : Int), after)
  | '+' :: rest => (number? 1 rest.length rest).map fun (n, after) => ((n : Int), after)
  | cs => (number? 1 4 cs).map fun (n, after) => ((n : Int), after)

/-- A date at the front of the text. -/
def datePart? (cs : List Char) : Option (CivilDate × List Char) := do
  let (year, cs) ← year? cs
  let cs ← mark? '-' cs
  let (month, cs) ← field? cs
  let cs ← mark? '-' cs
  let (day, cs) ← field? cs
  some (⟨year, month, day⟩, cs)

/-- A time of day at the front of the text. -/
def timePart? (cs : List Char) : Option (TimeOfDay × List Char) := do
  let (hour, cs) ← field? cs
  let cs ← mark? ':' cs
  let (minute, cs) ← field? cs
  let cs ← mark? ':' cs
  let (second, cs) ← field? cs
  let (nanos, cs) ← fraction? cs
  some (⟨hour, minute, second, nanos⟩, cs)

/-- Reads a date and a time of day that take up the whole text, with the given text between. -/
def readDateTime? (between : List Char → Option (List Char)) (cs : List Char) : Option Instant := do
  let (date, cs) ← datePart? cs
  let cs ← between cs
  let (time, cs) ← timePart? cs
  if cs = [] then Instant.ofLocal? date time 0 else none

/-- Reads a date that takes up the whole text, as the beginning of its day. -/
def readDate? (cs : List Char) : Option Instant := do
  let (date, cs) ← datePart? cs
  if cs = [] then Instant.ofLocal? date TimeOfDay.midnight 0 else none

end Intake.Calendar.Plain
