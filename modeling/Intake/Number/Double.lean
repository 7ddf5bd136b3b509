import Intake.Text.Digits

/-!
# Finite doubles

The finite floating-point numbers of sixty-four bits, as a sign, a biased exponent and a
fraction. A value of the type is a bit pattern, so the two zeros differ; what a pattern denotes
is `units`, its exact value counted in multiples of the least positive double. All comparison
and all arithmetic goes through this one integer, so that none of it rounds unnoticed.

Main statement: a pattern is recovered from its bits (`ofBits?_toBits`).
-/

set_option autoImplicit false

namespace Intake

/-- A finite floating-point number of sixty-four bits. -/
structure Double where
  /-- Whether the sign is set. -/
  negative : Bool
  /-- The biased exponent; the largest of the 2048 patterns, which is not finite, is missing. -/
  exponent : Fin 2047
  /-- The bits of the significand below its leading one. -/
  fraction : Fin 0x10000000000000
deriving DecidableEq, Hashable

namespace Double

/-- The least positive double is one part in this many of one. -/
def unitsPerOne : Nat := Nat.pow 2 1074

/-- The significand, with its leading one for all but the smallest numbers. -/
def significand (d : Double) : Nat :=
  if d.exponent.val = 0 then d.fraction.val else 0x10000000000000 + d.fraction.val

/-- The absolute value, in multiples of the least positive double. -/
def magnitude (d : Double) : Nat :=
  d.significand * Nat.pow 2 (d.exponent.val - 1)

/-- The exact value, in multiples of the least positive double. -/
def units (d : Double) : Int :=
  if d.negative then -(d.magnitude : Int) else d.magnitude

/-- Whether the value is zero, of either sign. -/
def isZero (d : Double) : Bool :=
  d.magnitude == 0

/-- Whether the value is a whole number. -/
def isWhole (d : Double) : Bool :=
  d.magnitude % unitsPerOne == 0

/-- The integer part of the value, toward zero; the value itself if it is whole. -/
def truncate (d : Double) : Int :=
  if d.negative then -((d.magnitude / unitsPerOne : Nat) : Int)
  else ((d.magnitude / unitsPerOne : Nat) : Int)

/-- The positive zero. -/
def zero : Double := ⟨false, 0, 0⟩

/-- The number with the other sign. -/
def negate (d : Double) : Double :=
  { d with negative := !d.negative }

/-- The bit pattern as a number: sign, then eleven bits of exponent, then the fraction. -/
def toBits (d : Double) : Nat :=
  (if d.negative then 0x8000000000000000 else 0) + d.exponent.val * 0x10000000000000 + d.fraction.val

/-- The double of a bit pattern, if the pattern has sixty-four bits and is finite. -/
def ofBits? (bits : Nat) : Option Double :=
  if bits < 0x10000000000000000 then
    if finite : bits / 0x10000000000000 % 2048 < 2047 then
      some ⟨decide (0x8000000000000000 ≤ bits), ⟨bits / 0x10000000000000 % 2048, finite⟩,
        ⟨bits % 0x10000000000000, Nat.mod_lt _ (by decide)⟩⟩
    else none
  else none

/-- A double is recovered from its bit pattern. -/
theorem ofBits?_toBits (d : Double) : ofBits? d.toBits = some d := by
  obtain ⟨negative, ⟨e, he⟩, ⟨f, hf⟩⟩ := d
  obtain ⟨sign, signBit⟩ : ∃ sign, sign = if negative then 0x8000000000000000 else 0 := ⟨_, rfl⟩
  have bits : toBits ⟨negative, ⟨e, he⟩, ⟨f, hf⟩⟩ = sign + e * 0x10000000000000 + f := by
    simp [toBits, signBit]
  have choice : sign = 0 ∧ negative = false ∨ sign = 0x8000000000000000 ∧ negative = true := by
    cases negative <;> simp_all
  have low : (sign + e * 0x10000000000000 + f) % 0x10000000000000 = f := by omega
  have high : (sign + e * 0x10000000000000 + f) / 0x10000000000000 % 2048 = e := by omega
  have bound : sign + e * 0x10000000000000 + f < 0x10000000000000000 := by omega
  have top : decide (0x8000000000000000 ≤ sign + e * 0x10000000000000 + f) = negative := by
    rcases choice with ⟨h, rfl⟩ | ⟨h, rfl⟩ <;> simp <;> omega
  simp only [ofBits?, bits, bound, high, low, top, he, if_true, dite_true]

end Double

end Intake
