import Intake.Calendar.Notation
import Intake.Json.Reader
import Intake.Number.Literal
import Intake.Rejection
import Intake.Value.Text

/-!
# Coercions

A coercion turns a value into a value of one type or rejects it. Those of the built-in types accept
the values of their type, texts that denote one, and, for dates, whole numbers of milliseconds. A
coercion never answers with a stand-in: what it cannot turn into its type it rejects.
-/

set_option autoImplicit false

namespace Intake

/-- Turns a value into a value of one type, or rejects it. -/
abbrev Coercion := Value → Except Rejection Value

namespace Coercion

/-- The value, if there is one, and else the rejection of a value that is none of the type. -/
def orReject (expected : String) (found : Value) : Option Value → Except Rejection Value
  | some value => .ok value
  | none => .error (.coercion expected found.kind)

/-- Any value as a string: the text by which it is shown. -/
def string : Coercion
  | .string s => .ok (.string s)
  | other => .ok (.string other.display)

/-- The number that a value is or that its text denotes. -/
def number? : Value → Option Number
  | .number n => some n
  | .string s => Number.ofText? s
  | _ => none

/-- Numbers and texts that denote a finite number. -/
def number : Coercion := fun value =>
  orReject "number" value ((number? value).map .number)

/-- Whole numbers and texts that denote one, in the preferred representation. -/
def integer : Coercion := fun value =>
  orReject "integer" value (((number? value).bind Number.integral?).map .number)

/-- Whether a value counts as false: false itself, zero, and the texts `0`, `false` and none at
all. -/
def isFalsy : Value → Bool
  | .bool b => !b
  | .number n => n.isZero
  | .string s => s == "" || s == "0" || s == "false"
  | _ => false

/-- The truth of any value. -/
def boolean : Coercion := fun value =>
  .ok (.bool (!isFalsy value))

/-- The instant of a whole number of milliseconds. -/
def instantOfNumber? (n : Number) : Option Instant :=
  match n.integral? with
  | some (.integer z _) => if z < 0x8000000000000000 then Instant.ofMilliseconds? z else none
  | _ => none

/-- The instant that a value is or denotes. -/
def instant? : Value → Option Instant
  | .date t => some t
  | .string s => Calendar.read? s
  | .number n => instantOfNumber? n
  | _ => none

/-- Points in time, texts in one of the notations of dates, and whole milliseconds. -/
def date : Coercion := fun value =>
  orReject "date" value ((instant? value).map .date)

/-- What a composite coercion looks at: the value itself, or the value of its text where that is
JSON. -/
def unpacked : Value → Value
  | .string s =>
    match Json.read? s with
    | some tree => Value.ofJson tree
    | none => .string s
  | other => other

/-- Arrays and texts of JSON arrays. -/
def array : Coercion := fun value =>
  match unpacked value with
  | .array elements => .ok (.array elements)
  | other => .error (.shape "array" other.kind)

/-- Records and texts of JSON objects. -/
def object : Coercion := fun value =>
  match unpacked value with
  | .object entries => .ok (.object entries)
  | other => .error (.shape "object" other.kind)

end Coercion

end Intake
