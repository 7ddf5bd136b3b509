import Intake.Json.Tree
import Intake.Number.Literal

/-!
# Reading JSON numbers

A JSON number without fraction and exponent is an integer if it fits sixty-four bits. Any other
number is read as a double, and not always as the nearest one: the digits are collected into a
significand of sixty-four bits for as long as they fit, and the significand is then multiplied or
divided by one power of ten, each step rounding on its own. The text `-0` is the negative zero of
the doubles.
-/

set_option autoImplicit false

namespace Intake.Json

open Intake.Text

/-- The largest significand. -/
def maxSignificand : Nat := 0xFFFFFFFFFFFFFFFF

/-- Appends digits to a significand for as long as it fits, and counts the digits left over. -/
def absorb : Nat → List Char → Nat × Nat
  | significand, [] => (significand, 0)
  | significand, d :: ds =>
    let next := 10 * significand + digitValue d
    if maxSignificand < next then (significand, ds.length + 1) else absorb next ds

/-- The double nearest to a power of ten. -/
def powerOfTen (exponent : Nat) : Double :=
  (Double.nearest? false (Nat.pow 10 exponent) 1).getD Double.zero

/-- The exponent of the largest power of ten that is a finite double. -/
def largestPower : Nat := 308

/-- Divides by the largest power of ten so many times, or until nothing is left to divide. -/
def divideRepeatedly : Nat → Double → Option Double
  | 0, d => some d
  | times + 1, d =>
    if d.isZero then some d
    else (d.div? (powerOfTen largestPower)).bind (divideRepeatedly times)

/-- Divides by a power of ten, by the largest one at a time while the power exceeds that. -/
def divideByPower (d : Double) (exponent : Nat) : Option Double :=
  let times := (exponent - 1) / largestPower
  (divideRepeatedly times d).bind fun quotient =>
    quotient.div? (powerOfTen (exponent - times * largestPower))

/-- A significand times a power of ten, each step rounded; none beyond the largest double. -/
def scale? (significand : Nat) (exponent : Int) : Option Double := do
  let d ← Double.nearest? false significand 1
  if exponent < 0 then divideByPower d exponent.natAbs
  else if exponent ≤ largestPower then d.mul? (powerOfTen exponent.natAbs)
  else if d.isZero then some d
  else none

/-- The parts of a number in text. -/
structure NumberParts where
  /-- Whether a minus comes first. -/
  negative : Bool
  /-- The digits before the point. -/
  whole : List Char
  /-- The digits after the point, if there is one. -/
  fraction : Option (List Char)
  /-- The exponent, if there is one. -/
  exponent : Option Int

/-- The double that a number with these parts denotes. -/
def NumberParts.toDouble? (parts : NumberParts) : Option Double :=
  let fraction := parts.fraction.getD []
  let (significand, dropped) := absorb 0 parts.whole
  let (significand, ignored) := absorb significand fraction
  let kept := fraction.length - ignored
  let exponent := (dropped : Int) - kept + parts.exponent.getD 0
  (scale? significand exponent).map fun d => { d with negative := parts.negative }

/-- The number with these parts; none if it lies beyond the largest double. -/
def NumberParts.toNumber? (parts : NumberParts) : Option Number :=
  match parts.fraction, parts.exponent with
  | none, none =>
    let n := ofDigits parts.whole
    if parts.negative ∧ n = 0 then some (.float Double.zero.negate)
    else match Number.ofInt? (withSign parts.negative n) with
      | some integer => some integer
      | none => parts.toDouble?.map Number.float
  | _, _ => parts.toDouble?.map Number.float

/-- The digits after the point at the front of the text, if there is a point. -/
def fractionPart? : List Char → Option (Option (List Char) × List Char)
  | '.' :: rest =>
    let (ds, after) := spanDigits rest
    if ds = [] then none else some (some ds, after)
  | cs => some (none, cs)

/-- The exponent at the front of the text, if there is one. -/
def exponentPart? (cs : List Char) : Option (Option Int × List Char) :=
  match cs with
  | c :: rest =>
    if c = 'e' ∨ c = 'E' then
      let (negative, unsigned) := splitSign rest
      let (ds, after) := spanDigits unsigned
      if ds = [] then none else some (some (withSign negative (ofDigits ds)), after)
    else some (none, cs)
  | [] => some (none, [])

/-- Reads a number at the front of the text. A leading zero stands alone. -/
def number? (cs : List Char) : Option (Number × List Char) := do
  let (negative, cs) := match cs with
    | '-' :: rest => (true, rest)
    | _ => (false, cs)
  let (whole, cs) := spanDigits cs
  if whole = [] ∨ (whole.head? = some '0' ∧ whole.length ≠ 1) then none
  else
    let (fraction, cs) ← fractionPart? cs
    let (exponent, cs) ← exponentPart? cs
    let number ← NumberParts.toNumber? { negative, whole, fraction, exponent }
    some (number, cs)

end Intake.Json
