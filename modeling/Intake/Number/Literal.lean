import Intake.Number.Basic
import Intake.Text.Blank

/-!
# Numeric text

Numbers written in text. An integer literal is an optional sign and digits; a decimal literal may
also have a point and an exponent, and is read as the nearest double. Text denotes a number if it
is such a literal after the blanks around it are removed: an integer where the literal is one and
fits, else a finite double.
-/

set_option autoImplicit false

namespace Intake

open Intake.Text

/-- An optional sign: whether it is a minus, and the text after it. -/
def splitSign : List Char → Bool × List Char
  | '-' :: rest => (true, rest)
  | '+' :: rest => (false, rest)
  | cs => (false, cs)

/-- A natural number with a sign. -/
def withSign (negative : Bool) (n : Nat) : Int :=
  if negative then -(n : Int) else n

/-- The integer that a text of an optional sign and at least one digit denotes. -/
def readInteger? (cs : List Char) : Option Int :=
  let (negative, ds) := splitSign cs
  if ds ≠ [] ∧ ds.all isDigit then some (withSign negative (ofDigits ds)) else none

/-- A decimal literal: a signed run of digits times a power of ten. -/
structure DecimalLiteral where
  /-- Whether the sign is a minus. -/
  negative : Bool
  /-- All digits, those before the point and those after it. -/
  digits : List Char
  /-- The power of ten that the digits, read as a whole number, are multiplied by. -/
  exponent : Int

/-- What a floating-point text denotes. -/
inductive FloatReading
  /-- A finite number. -/
  | finite (value : Double)
  /-- A quantity beyond the largest double. -/
  | infinite (negative : Bool)
  /-- No quantity at all. -/
  | notANumber

namespace DecimalLiteral

/-- The exponent part at the end of a literal: nothing, or `e` and a signed run of digits. -/
def readExponent? : List Char → Option Int
  | [] => some 0
  | c :: rest => if c == 'e' || c == 'E' then readInteger? rest else none

/-- Reads a decimal literal: digits with an optional point on either side, at least one digit, and
an optional exponent. -/
def read? (cs : List Char) : Option DecimalLiteral :=
  let (negative, unsigned) := splitSign cs
  let (whole, afterWhole) := spanDigits unsigned
  let (fraction, afterFraction) := match afterWhole with
    | '.' :: rest => spanDigits rest
    | _ => ([], afterWhole)
  if whole = [] ∧ fraction = [] then none
  else (readExponent? afterFraction).map fun exponent =>
    { negative, digits := whole ++ fraction, exponent := exponent - fraction.length }

/-- A power of ten that no finite double reaches, and below whose inverse all round to zero. -/
def extremeExponent : Int := 400

/-- The double nearest to the literal. A quantity that is clearly too large or too small is decided
by the place of its leading digit, so that no power of ten of unbounded size is formed. -/
def value (literal : DecimalLiteral) : FloatReading :=
  let significant := literal.digits.dropWhile (· == '0')
  let leading := significant.length + literal.exponent
  let n := ofDigits significant
  let rounded :=
    if significant = [] ∨ leading < -extremeExponent then
      Double.ofMagnitude? literal.negative 0
    else if extremeExponent < leading then none
    else if 0 ≤ literal.exponent then
      Double.nearest? literal.negative (n * Nat.pow 10 literal.exponent.toNat) 1
    else
      Double.nearest? literal.negative n (Nat.pow 10 (-literal.exponent).toNat)
  match rounded with
  | some d => .finite d
  | none => .infinite literal.negative

end DecimalLiteral

/-- The text in lower case, for words made of the letters of ASCII. -/
def lowered (cs : List Char) : List Char :=
  cs.map Char.toLower

/-- Reads floating-point text: a decimal literal or, in any case, a signed `inf`, `infinity` or
`nan`. -/
def FloatReading.ofText? (cs : List Char) : Option FloatReading :=
  match DecimalLiteral.read? cs with
  | some literal => some literal.value
  | none =>
    let (negative, word) := splitSign cs
    let word := String.ofList (lowered word)
    if word = "inf" ∨ word = "infinity" then some (.infinite negative)
    else if word = "nan" then some .notANumber
    else none

/-- The number that a text denotes after the blanks around it are removed. -/
def Number.ofText? (s : String) : Option Number :=
  let cs := trim s.toList
  match (readInteger? cs).bind Number.ofInt? with
  | some n => some n
  | none =>
    match FloatReading.ofText? cs with
    | some (.finite d) => some (.float d)
    | _ => none

end Intake
