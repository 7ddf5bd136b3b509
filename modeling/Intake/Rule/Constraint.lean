import Intake.Number.Text
import Intake.Rule.Format
import Intake.Rule.Repeats

/-!
# Constraints

The built-in rules as data: each is a constraint that a value meets or does not. A constraint never
changes a value, says nothing about values of kinds that it is not about, and explains a refusal in
words that depend on the constraint alone.
-/

set_option autoImplicit false

namespace Intake

/-- A comparison with a limit. -/
inductive Comparison
  | atLeast
  | atMost
  | greaterThan
  | lessThan
deriving DecidableEq

/-- The words for a comparison. -/
def Comparison.words : Comparison → String
  | .atLeast => "at least"
  | .atMost => "at most"
  | .greaterThan => "greater than"
  | .lessThan => "less than"

/-- Whether a quantity stands in the comparison to a limit. -/
def Comparison.holds (comparison : Comparison) (quantity limit : Int) : Bool :=
  match comparison with
  | .atLeast => limit ≤ quantity
  | .atMost => quantity ≤ limit
  | .greaterThan => limit < quantity
  | .lessThan => quantity < limit

namespace Double

/-- One part in a thousand million, as a double. -/
def billionth : Double := ⟨false, ⟨993, by decide⟩, ⟨0x12E0BE826D695, by decide⟩⟩

/-- How far a quotient may be from a whole number and still count as one: a part in a thousand million
of the quotient, and of one if the quotient is smaller than that. -/
def tolerance (quotient : Double) : Nat :=
  let scale : Double := { quotient with negative := false }
  if quotient.magnitude ≤ unitsPerOne then billionth.magnitude
  else match billionth.mul? scale with
    | some bound => bound.magnitude
    | none => 0

/-- Whether a double is a multiple of a positive step, as far as the rounded quotient can tell. A
quotient beyond the largest double is none. -/
def isMultipleOf (d step : Double) : Bool :=
  match d.div? step with
  | some quotient =>
    (quotient.units - quotient.round * unitsPerOne).natAbs ≤ quotient.tolerance
  | none => false

end Double

/-- A built-in rule with its parameter. -/
inductive Constraint
  /-- Numbers stand in a comparison to a limit, both taken as doubles. -/
  | bound (comparison : Comparison) (limit : Double)
  /-- Numbers are multiples of a step. -/
  | multiple (step : Double)
  /-- The number of characters of strings is bounded. -/
  | length (comparison : Comparison) (limit : Nat)
  /-- The number of elements of arrays is bounded. -/
  | count (comparison : Comparison) (limit : Nat)
  /-- No two elements of an array are equivalent, if that is required. -/
  | distinct (required : Bool)
  /-- Some part of each string matches a pattern, given as text and as the test for it. -/
  | pattern (source : String) (isFound : String → Bool)
  /-- The value is equivalent to one of those allowed. -/
  | oneOf (allowed : List Value)
  /-- The value is equivalent to another. -/
  | equal (expected : Value)
  /-- The value has a format, which is known by the given name. -/
  | format (name : String) (required : Format)
  /-- Every value is accepted. -/
  | anything

namespace Constraint

/-- Whether a value meets the constraint. -/
def accepts (constraint : Constraint) (value : Value) : Bool :=
  match constraint with
  | .bound comparison limit =>
    match value with
    | .number n => comparison.holds n.toDouble.units limit.units
    | _ => true
  | .multiple step =>
    match value with
    | .number n => n.toDouble.isMultipleOf step
    | _ => true
  | .length comparison limit =>
    match value with
    | .string s => comparison.holds s.length limit
    | _ => true
  | .count comparison limit =>
    match value with
    | .array elements => comparison.holds elements.length limit
    | _ => true
  | .distinct required =>
    match value with
    | .array elements => !(required && hasRepeats elements)
    | _ => true
  | .pattern _ isFound =>
    match value with
    | .string s => isFound s
    | _ => true
  | .oneOf allowed => allowed.any fun candidate => candidate.equivalent value
  | .equal expected => expected.equivalent value
  | .format _ required => required.accepts value
  | .anything => true

/-- Why a value that does not meet the constraint is refused. -/
def reason : Constraint → String
  | .bound comparison limit => "value must be " ++ comparison.words ++ " " ++ limit.message
  | .multiple step => "value must be a multiple of " ++ step.message
  | .length comparison limit =>
    "length must be " ++ comparison.words ++ " " ++ Text.numeral limit
  | .count comparison limit =>
    "item count must be " ++ comparison.words ++ " " ++ Text.numeral limit
  | .distinct _ => "items must be unique"
  | .pattern source _ => "value does not match /" ++ source ++ "/"
  | .oneOf allowed =>
    "value is not one of " ++ Text.numeral allowed.length ++ " allowed values"
  | .equal _ => "value differs from the constant"
  | .format name _ => "value is not a valid " ++ name
  | .anything => ""

end Constraint

end Intake
