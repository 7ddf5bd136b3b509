import Intake.Calendar.Plain
import Intake.Calendar.Rfc2822
import Intake.Calendar.Rfc3339

/-!
# The notations of dates

Text denotes the instant that the first of five notations reads it as, after the blanks around it
are removed: an internet timestamp, a mail date, a date and time without an offset joined by `T`
or by blanks, or a date alone.
-/

set_option autoImplicit false

namespace Intake.Calendar

open Intake.Text

/-- The notations in the order in which they are tried. -/
def notations : List (List Char → Option Instant) :=
  [ Rfc3339.read?
  , Rfc2822.read?
  , Plain.readDateTime? (mark? 'T')
  , Plain.readDateTime? (fun cs => some (trimStart cs))
  , Plain.readDate? ]

/-- The instant that a text denotes. -/
def read? (s : String) : Option Instant :=
  notations.findSome? fun notation? => notation? (trim s.toList)

end Intake.Calendar
