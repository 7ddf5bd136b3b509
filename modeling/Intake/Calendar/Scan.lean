import Intake.Text.Blank
import Intake.Text.Digits

/-!
# Reading parts of calendar text

Each function reads one part from the front of a text and gives the part with the text after it,
or nothing if the text does not begin with such a part.
-/

set_option autoImplicit false

namespace Intake.Calendar

open Intake.Text

/-- A number of at least and at most so many digits. -/
def number? (least most : Nat) (cs : List Char) : Option (Nat × List Char) :=
  let ds := (cs.take most).takeWhile isDigit
  if ds.length < least then none else some (ofDigits ds, cs.drop ds.length)

/-- A given character. -/
def mark? (c : Char) : List Char → Option (List Char)
  | d :: rest => if d = c then some rest else none
  | [] => none

/-- One or more blanks. -/
def blanks? (cs : List Char) : Option (List Char) :=
  match cs with
  | c :: rest => if isBlank c then some (trimStart rest) else none
  | [] => none

/-- An optional point and fraction of a second, in nanoseconds. Digits after the ninth count for
nothing. -/
def fraction? (cs : List Char) : Option (Nat × List Char) :=
  match cs with
  | '.' :: rest =>
    let (ds, after) := spanDigits rest
    let kept := ds.take 9
    if ds = [] then none else some (ofDigits kept * Nat.pow 10 (9 - kept.length), after)
  | _ => some (0, cs)

/-- Two digits of hours, the text between them and two digits of minutes, both below the length of
a day and an hour: an offset in minutes. -/
def offsetDigits? (between : List Char → Option (List Char)) (cs : List Char) :
    Option (Nat × List Char) := do
  let (hours, cs) ← number? 2 2 cs
  let cs ← between cs
  let (minutes, cs) ← number? 2 2 cs
  if hours ≤ 23 ∧ minutes ≤ 59 then some (hours * 60 + minutes, cs) else none

end Intake.Calendar
