import Intake.Calendar.Instant
import Intake.Number.Basic

/-!
# Values

The dynamic values that an intake receives and produces: the values of JSON and, in addition,
points in time. A record is a list of entries in the order of their insertion; the operations
below keep its keys distinct. A missing value is no value at all and differs from `null`.
-/

set_option autoImplicit false

namespace Intake

/-- What a value is, as messages name it. -/
inductive Kind
  | null
  | boolean
  | number
  | string
  | date
  | array
  | object
deriving DecidableEq

/-- The name of a kind in messages. -/
def Kind.name : Kind → String
  | .null => "null"
  | .boolean => "boolean"
  | .number => "number"
  | .string => "string"
  | .date => "date"
  | .array => "array"
  | .object => "object"

/-- A dynamic value. -/
inductive Value
  /-- The explicit null. -/
  | null
  /-- A truth value. -/
  | bool (value : Bool)
  /-- A number. -/
  | number (value : Number)
  /-- A string. -/
  | string (value : String)
  /-- A point in time. -/
  | date (value : Instant)
  /-- A sequence of values. -/
  | array (elements : List Value)
  /-- A record. -/
  | object (entries : List (String × Value))

/-- Entries in the order of their insertion. -/
abbrev Record := List (String × Value)

namespace Value

instance : Inhabited Value := ⟨.null⟩

/-- The kind of a value. -/
def kind : Value → Kind
  | .null => .null
  | .bool _ => .boolean
  | .number _ => .number
  | .string _ => .string
  | .date _ => .date
  | .array _ => .array
  | .object _ => .object

/-- Whether the value is the explicit null. -/
def isNull : Value → Bool
  | .null => true
  | _ => false

/-- The text of a string. -/
def string? : Value → Option String
  | .string s => some s
  | _ => none

/-- The double nearest to a number. -/
def double? : Value → Option Double
  | .number n => some n.toDouble
  | _ => none

/-- The elements of an array. -/
def elements? : Value → Option (List Value)
  | .array elements => some elements
  | _ => none

/-- The entries of a record. -/
def entries? : Value → Option Record
  | .object entries => some entries
  | _ => none

/-- The elements of an array; any other value is the only element of its own list. -/
def elementsOrSelf : Value → List Value
  | .array elements => elements
  | other => [other]

/-- The number of a double, and null for what is no finite number. -/
def ofDouble : Option Double → Value
  | some d => .number (.float d)
  | none => .null

/-- The number of an integer, and null for one beyond sixty-four bits. -/
def ofInt (z : Int) : Value :=
  match Number.ofInt? z with
  | some n => .number n
  | none => .null

end Value

end Intake
