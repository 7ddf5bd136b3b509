import Intake.Number.Double

/-!
# Rounding to a double

The double nearest to an exact quotient, a tie going to the even neighbour. Integers, quotients
and products of doubles are all rounded by this one function. A quotient whose rounded value lies
beyond the largest double has none.
-/

set_option autoImplicit false

namespace Intake.Double

/-- The whole number nearest to a quotient; of two equally near ones the even one. -/
def roundEven (num den : Nat) : Nat :=
  let low := num / den
  let twice := 2 * (num % den)
  if twice < den then low else if den < twice then low + 1 else low + low % 2

/-- The magnitude nearest to a quotient given in units, among those whose significand has at most
fifty-three bits. -/
def roundMagnitude (num den : Nat) : Nat :=
  let shift := (num / den).log2 - 52
  roundEven num (den * Nat.pow 2 shift) * Nat.pow 2 shift

/-- The double of a magnitude of at most fifty-three significant bits, if it is not too large. -/
def ofMagnitude? (negative : Bool) (magnitude : Nat) : Option Double :=
  let exponent := magnitude.log2 - 51
  if finite : exponent < 2047 then
    some ⟨negative, ⟨exponent, finite⟩,
      ⟨magnitude / Nat.pow 2 (exponent - 1) % 0x10000000000000, Nat.mod_lt _ (by decide)⟩⟩
  else none

/-- The double nearest to a quotient of the given sign. -/
def nearest? (negative : Bool) (num den : Nat) : Option Double :=
  ofMagnitude? negative (roundMagnitude (num * unitsPerOne) den)

/-- The double nearest to an integer. -/
def ofInt? (z : Int) : Option Double :=
  nearest? (decide (z < 0)) z.natAbs 1

/-- The quotient of two doubles, the second one not zero. -/
def div? (a b : Double) : Option Double :=
  nearest? (a.negative != b.negative) a.magnitude b.magnitude

/-- The product of two doubles. -/
def mul? (a b : Double) : Option Double :=
  nearest? (a.negative != b.negative) (a.magnitude * b.magnitude) (unitsPerOne * unitsPerOne)

/-- The whole number nearest to a double, a half going away from zero. -/
def round (d : Double) : Int :=
  let whole := (2 * d.magnitude + unitsPerOne) / (2 * unitsPerOne)
  if d.negative then -(whole : Int) else whole

end Intake.Double
