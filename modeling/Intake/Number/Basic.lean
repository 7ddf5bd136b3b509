import Intake.Number.Rounding

/-!
# Numbers

A number is an integer between -2^63 and 2^64 or a finite double. The two representations are
kept apart: `1` and `1.0` are different numbers that denote the same quantity. What a number
denotes is `units`, its exact value counted in multiples of the least positive double, and the
operations below are all exact except `toDouble`.
-/

set_option autoImplicit false

namespace Intake

/-- A number in one of its two representations. -/
inductive Number
  /-- An integer that fits sixty-four bits, signed or unsigned. -/
  | integer (value : Int) (fits : -0x8000000000000000 ≤ value ∧ value < 0x10000000000000000)
  /-- A finite double. -/
  | float (value : Double)
deriving DecidableEq

/-- The identity of a quantity: whole quantities of moderate size are integers whatever their
representation, all others are doubles. -/
inductive QuantityKey
  /-- A whole quantity. -/
  | integer (value : Int)
  /-- Any other quantity, and whole ones of 127 bits or more. -/
  | float (value : Double)
deriving DecidableEq, Hashable

namespace Number

/-- The integer number, if it fits sixty-four bits. -/
def ofInt? (z : Int) : Option Number :=
  if fits : -0x8000000000000000 ≤ z ∧ z < 0x10000000000000000 then some (.integer z fits) else none

/-- The number zero. -/
def zero : Number := .integer 0 (by decide)

/-- The exact value, in multiples of the least positive double. -/
def units : Number → Int
  | .integer z _ => z * Double.unitsPerOne
  | .float d => d.units

/-- The nearest double. An integer of sixty-four bits always has one. -/
def toDouble : Number → Double
  | .integer z _ => (Double.ofInt? z).getD Double.zero
  | .float d => d

/-- Whether the value is zero. -/
def isZero : Number → Bool
  | .integer z _ => z == 0
  | .float d => d.isZero

/-- The number as a count: only an integer that is not negative is one. -/
def toNat? : Number → Option Nat
  | .integer z _ => if 0 ≤ z then some z.toNat else none
  | .float _ => none

/-- Equality within one representation; the two zeros of doubles are equal. -/
def same : Number → Number → Bool
  | .integer a _, .integer b _ => a == b
  | .float a, .float b => a.units == b.units
  | _, _ => false

/-- Whole doubles are identified as integers below this limit: they have less than 128 bits, the sign
included. -/
def wholeLimit : Int := 0x80000000000000000000000000000000

/-- The identity of the quantity that the number denotes. -/
def key : Number → QuantityKey
  | .integer z _ => .integer z
  | .float d =>
    if d.isWhole && -wholeLimit ≤ d.truncate && d.truncate < wholeLimit then .integer d.truncate
    else .float d

/-- A whole number in its preferred representation: the integer if it fits, else the double.
Numbers with a fraction have none. -/
def integral? : Number → Option Number
  | .integer z fits => some (.integer z fits)
  | .float d => if d.isWhole then some ((ofInt? d.truncate).getD (.float d)) else none

end Number

end Intake
