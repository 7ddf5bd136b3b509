import Intake.Number.Shortest
import Intake.Types.Coercion

/-!
# Further coercions

Coercions beyond the built-in types, for registries that name them: trimmed text, amounts of money
in cents, a fixed text, and one that takes nothing.
-/

set_option autoImplicit false

namespace Intake.Coercion

open Intake.Text

/-- The shown text without the blanks around it. -/
def trimmed : Coercion := fun value =>
  .ok (.string (String.ofList (trim value.display.toList)))

/-- The least integer of sixty-four bits. -/
def leastInt64 : Int := -0x8000000000000000

/-- The greatest integer of sixty-four bits. -/
def greatestInt64 : Int := 0x7FFFFFFFFFFFFFFF

/-- The integer of sixty-four bits that is nearest to the given one. -/
def clampInt64 (z : Int) : Int :=
  max leastInt64 (min greatestInt64 z)

/-- The number of cents of an amount: a hundred times the amount, rounded to a whole number of
sixty-four bits. No amount at all counts as none. -/
def centsOf (amount : FloatReading) : Int :=
  match amount with
  | .notANumber => 0
  | .infinite negative => if negative then leastInt64 else greatestInt64
  | .finite d =>
    match (Double.ofInt? 100).bind d.mul? with
    | some hundredfold => clampInt64 hundredfold.round
    | none => if d.negative then leastInt64 else greatestInt64

/-- An amount of money, possibly after euro signs, as a number of cents. -/
def cents : Coercion := fun value =>
  let amount := value.display.toList.dropWhile (· == '€')
  orReject "cents" value ((FloatReading.ofText? amount).map fun x => Value.ofInt (centsOf x))

/-- The same text for every value. -/
def fixed (text : String) : Coercion := fun _ =>
  .ok (.string text)

/-- Takes no value. -/
def nothing : Coercion := fun value =>
  .error (.shape "nothing" value.kind)

end Intake.Coercion
