import Intake.Calendar.Instant
import Intake.Calendar.Scan

/-!
# Dates of mail headers

The notation of RFC 2822: an optional weekday, a day, the name of a month, a year, a time and a
zone, separated by blanks, and comments in parentheses at the end. Names may be in any case, and
a weekday must be that of the date.
-/

set_option autoImplicit false

namespace Intake.Calendar.Rfc2822

open Intake.Text

/-- The names of the days of a week, from Monday. -/
def weekdays : List (List Char) :=
  ["mon", "tue", "wed", "thu", "fri", "sat", "sun"].map String.toList

/-- The names of the months. -/
def months : List (List Char) :=
  ["jan", "feb", "mar", "apr", "may", "jun", "jul", "aug", "sep", "oct", "nov", "dec"].map
    String.toList

/-- The index of the three-letter name that the text begins with. -/
def name? (names : List (List Char)) (cs : List Char) : Option (Nat × List Char) :=
  (names.idxOf? ((cs.take 3).map Char.toLower)).map fun index => (index, cs.drop 3)

/-- The weekday that a comma follows, if the text begins with the name of one. A name without its
comma is an error. -/
def leadingWeekday? (cs : List Char) : Option (Option Nat × List Char) :=
  match name? weekdays cs with
  | some (index, rest) => (mark? ',' rest).map fun after => (some index, after)
  | none => some (none, cs)

/-- The year that a number of so many digits means: two digits stand for a year from 1950 to 2049
and three for one from 1900. -/
def fullYear (width n : Nat) : Nat :=
  if width = 2 then (if n ≤ 49 then n + 2000 else n + 1900)
  else if width = 3 then n + 1900
  else n

/-- A year of at least two digits. -/
def year? (cs : List Char) : Option (Nat × List Char) :=
  (number? 2 cs.length cs).map fun (n, rest) => (fullYear (cs.length - rest.length) n, rest)

/-- The optional seconds after the minutes. -/
def seconds? (cs : List Char) : Option (Nat × List Char) :=
  match trimStart cs with
  | ':' :: rest => number? 2 2 rest
  | _ => some (0, cs)

/-- The offset in hours of a named zone. A single letter other than J stands for universal time. -/
def zoneHours? (name : List Char) : Option Int :=
  match String.ofList (name.map Char.toLower) with
  | "gmt" | "ut" => some 0
  | "edt" => some (-4)
  | "est" | "cdt" => some (-5)
  | "cst" | "mdt" => some (-6)
  | "mst" | "pdt" => some (-7)
  | "pst" => some (-8)
  | other => if other.length = 1 ∧ other ≠ "j" then some 0 else none

/-- The offset in minutes: a name, or a sign and four digits. -/
def zone? (cs : List Char) : Option (Int × List Char) :=
  match cs.takeWhile Char.isAlpha with
  | [] =>
    match cs with
    | '+' :: rest => (offsetDigits? some rest).map fun (minutes, after) => ((minutes : Int), after)
    | '-' :: rest => (offsetDigits? some rest).map fun (minutes, after) => (-(minutes : Int), after)
    | _ => none
  | name => (zoneHours? name).map fun hours => (hours * 60, cs.drop name.length)

/-- Whether the text consists of comments, each in parentheses and possibly after blanks. Comments
nest, and a backslash takes the character after it out of the count. The first argument is the
depth; the second says, outside comments, that blanks wait for a comment to follow, and inside,
that a backslash came last. -/
def onlyComments : Nat → Bool → List Char → Bool
  | 0, waiting, [] => !waiting
  | _ + 1, _, [] => false
  | 0, _, c :: rest =>
    if c = '(' then onlyComments 1 false rest
    else isBlank c && onlyComments 0 true rest
  | depth + 1, true, _ :: rest => onlyComments (depth + 1) false rest
  | depth + 1, false, c :: rest =>
    if c = '\\' then onlyComments (depth + 1) true rest
    else if c = '(' then onlyComments (depth + 2) false rest
    else if c = ')' then onlyComments depth false rest
    else onlyComments (depth + 1) false rest

/-- Reads a mail date that takes up the whole text. -/
def read? (cs : List Char) : Option Instant := do
  let (weekday, cs) ← leadingWeekday? (trimStart cs)
  let (day, cs) ← number? 1 2 (trimStart cs)
  let cs ← blanks? cs
  let (month, cs) ← name? months cs
  let cs ← blanks? cs
  let (year, cs) ← year? cs
  let cs ← blanks? cs
  let (hour, cs) ← number? 2 2 cs
  let cs ← mark? ':' (trimStart cs)
  let (minute, cs) ← number? 2 2 (trimStart cs)
  let (second, cs) ← seconds? cs
  let cs ← blanks? cs
  let (offset, cs) ← zone? cs
  let date : CivilDate := ⟨year, month + 1, day⟩
  let named : Bool := match weekday with
    | some index => (index : Int) == date.weekday
    | none => true
  if named && onlyComments 0 false cs then
    Instant.ofLocal? date ⟨hour, minute, second, 0⟩ offset
  else none

end Intake.Calendar.Rfc2822
