import Intake.Number.Basic
import Intake.Number.Shortest

/-!
# The text of a number

Integers are written as digits, doubles as their shortest decimal in the layout of data text. A
limit in a message is always written as a double, in the layout of messages.
-/

set_option autoImplicit false

namespace Intake

/-- The number as it stands in data text. -/
def Number.text : Number → List Char
  | .integer z _ => Text.signedDigits z
  | .float d => d.render Double.dataLayout

/-- The double as it stands in a message. -/
def Double.message (d : Double) : String :=
  String.ofList (d.render Double.messageLayout)

end Intake
