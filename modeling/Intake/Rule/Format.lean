import Intake.Calendar.Plain
import Intake.Calendar.Rfc3339
import Intake.Net.Url
import Intake.Net.Uuid
import Intake.Rule.Engines
import Intake.Value.Basic

/-!
# Formats of strings

The formats that a string may be required to have. Points in time have the two formats of dates, and
formats say nothing about values of other kinds. A format looks at the whole string, blanks included.
-/

set_option autoImplicit false

namespace Intake

/-- A format of strings. -/
inductive Format
  /-- A date. -/
  | date
  /-- An internet timestamp. -/
  | dateTime
  /-- An address of electronic mail, by the search for its pattern. -/
  | email (isFound : String → Bool)
  /-- The absolute address of a resource, given which texts are domains in all scripts. -/
  | uri (mappedDomain? : List Char → Option (List Char))
  /-- A universally unique identifier. -/
  | uuid
  /-- An internet address of version 4. -/
  | ipv4
  /-- An internet address of version 6. -/
  | ipv6

namespace Format

/-- The pattern of mail addresses: text, an at sign, text, a point and text, where the texts have neither
blanks nor at signs. -/
def mailPattern : String := "^[^@\\s]+@[^@\\s]+\\.[^@\\s]+$"

/-- The format of a name, if it is known. The pattern of mail addresses has to be readable. -/
def ofName [Engines] (name : String) : Except String (Option Format) :=
  match name with
  | "date" => .ok (some .date)
  | "date-time" => .ok (some .dateTime)
  | "email" => (Engines.search mailPattern).map fun isFound => some (.email isFound)
  | "uri" => .ok (some (.uri Engines.mappedDomain?))
  | "url" => .ok (some (.uri Engines.mappedDomain?))
  | "uuid" => .ok (some .uuid)
  | "ipv4" => .ok (some .ipv4)
  | "ipv6" => .ok (some .ipv6)
  | _ => .ok none

/-- Whether a string has the format. -/
def acceptsText (format : Format) (s : String) : Bool :=
  match format with
  | .date => (Calendar.Plain.readDate? s.toList).isSome
  | .dateTime => (Calendar.Rfc3339.read? s.toList).isSome
  | .email isFound => isFound s
  | .uri mappedDomain? => Net.isUrl mappedDomain? s.toList
  | .uuid => Net.isUuid s.toList
  | .ipv4 => Net.isIpv4 s.toList
  | .ipv6 => Net.isIpv6 s.toList

/-- Whether a value has the format. -/
def accepts (format : Format) : Value → Bool
  | .string s => format.acceptsText s
  | .date _ =>
    match format with
    | .date | .dateTime => true
    | _ => false
  | _ => true

end Format

end Intake
