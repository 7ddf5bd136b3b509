import Intake.Number.Double

/-!
# The shortest decimal of a double

Among all decimals that read back as a given double, those on the coarsest grid of powers of ten
have the fewest digits; the one nearest to the double is its shortest decimal. A decimal reads
back if it lies between the midpoints to the two neighbouring doubles, which themselves read back
exactly if the significand is even.

A layout says how the digits of the shortest decimal become text. There are two: the notation of
data text and the plain notation of messages.
-/

set_option autoImplicit false

namespace Intake.Double

open Intake.Text

/-- Which of two equally near decimals is the shortest one. -/
inductive Tie
  /-- The one with an even last digit. -/
  | toEven
  /-- The one farther from zero. -/
  | away

/-- A positive decimal number, `digits` times ten to the power `exponent`. -/
structure Decimal where
  /-- The significant digits, as a number. -/
  digits : Nat
  /-- The power of ten that they are multiplied by. -/
  exponent : Int

/-- The interval of numbers that read back as a positive double, in quarters of the least positive
double, and whether its ends belong to it. -/
structure Interval where
  /-- The lower end. -/
  low : Nat
  /-- The upper end. -/
  high : Nat
  /-- Whether the ends belong to the interval. -/
  closed : Bool

/-- The numbers that read back as the given double. Below a power of two the gap to the next
double is half as wide as above it. -/
def interval (d : Double) : Interval :=
  let step := Nat.pow 2 (d.exponent.val - 1)
  let below := if d.fraction.val = 0 ∧ 1 < d.exponent.val then step else 2 * step
  { low := 4 * d.magnitude - below
    high := 4 * d.magnitude + 2 * step
    closed := d.significand % 2 == 0 }

/-- Grids are numbered from the power of ten 10^-343 upwards. -/
def gridBase : Nat := 343

/-- The distance of two neighbouring points of a grid, in quarters of the least positive double
divided by ten to the power `gridBase`. -/
def gridStep (grid : Nat) : Nat :=
  Nat.pow 10 grid * (4 * unitsPerOne)

/-- Whether a multiple of a grid's step reads back. -/
def Interval.holds (range : Interval) (point : Nat) : Bool :=
  let low := range.low * Nat.pow 10 gridBase
  let high := range.high * Nat.pow 10 gridBase
  if range.closed then low ≤ point && point ≤ high else low < point && point < high

/-- The point of one grid that reads back and is nearest to the double, if there is one: it is the
last point below the double or the first one above. -/
def pointOn? (tie : Tie) (d : Double) (grid : Nat) : Option Nat :=
  let value := 4 * d.magnitude * Nat.pow 10 gridBase
  let step := gridStep grid
  let below := value / step
  let range := d.interval
  let belowFits := 0 < below && range.holds (below * step)
  let aboveFits := range.holds ((below + 1) * step)
  let twice := 2 * (value % step)
  let nearer :=
    if twice < step then below
    else if step < twice then below + 1
    else match tie with
      | .toEven => below + below % 2
      | .away => below + 1
  match belowFits, aboveFits with
  | true, true => some nearer
  | true, false => some below
  | false, true => some (below + 1)
  | false, false => none

/-- The point on the coarsest grid that holds one, among the grids from the given one downwards. -/
def coarsest (tie : Tie) (d : Double) : Nat → Decimal
  | 0 => ⟨(pointOn? tie d 0).getD 0, -gridBase⟩
  | grid + 1 =>
    match pointOn? tie d (grid + 1) with
    | some point => ⟨point, (grid + 1 : Int) - gridBase⟩
    | none => coarsest tie d grid

/-- A grid whose step is larger than the double. -/
def topGrid (d : Double) : Nat :=
  gridBase + 2 + d.magnitude.log2 * 30103 / 100000 - 323

/-- The shortest decimal of a double that is not zero. -/
def shortest (tie : Tie) (d : Double) : Decimal :=
  coarsest tie d d.topGrid

/-- How digits become text. -/
structure Layout where
  /-- The choice between two equally near decimals. -/
  tie : Tie
  /-- Whether a leading digit of this power of ten is written without an exponent. -/
  plain : Int → Bool
  /-- What follows the digits of a whole number. -/
  wholeMark : List Char

/-- The digits of a decimal without an exponent: a point divides them, and zeros fill the places
between the digits and the point. -/
def plainText (wholeMark digits : List Char) (exponent : Int) : List Char :=
  let leading := digits.length + exponent
  if 0 ≤ exponent then
    digits ++ List.replicate exponent.toNat '0' ++ wholeMark
  else if 0 < leading then
    digits.take leading.toNat ++ '.' :: digits.drop leading.toNat
  else
    '0' :: '.' :: (List.replicate (-leading).toNat '0' ++ digits)

/-- One leading digit, the other digits after a point, and the power of ten with its sign. -/
def exponentText (digits : List Char) (leading : Int) : List Char :=
  let mantissa := match digits with
    | [] => []
    | [digit] => [digit]
    | digit :: rest => digit :: '.' :: rest
  let sign := if leading < 0 then '-' else '+'
  mantissa ++ 'e' :: sign :: Text.digits leading.natAbs

/-- The text of a double in a layout. -/
def render (layout : Layout) (d : Double) : List Char :=
  let sign := if d.negative then ['-'] else []
  if d.isZero then sign ++ '0' :: layout.wholeMark
  else
    let decimal := shortest layout.tie d
    let digits := Text.digits decimal.digits
    let leading := decimal.exponent + digits.length - 1
    if layout.plain leading then
      sign ++ plainText layout.wholeMark digits decimal.exponent
    else
      sign ++ exponentText digits leading

/-- Data text: no exponent from 10^-5 up to 10^15, and whole numbers keep a fraction digit. -/
def dataLayout : Layout :=
  { tie := .toEven
    plain := fun leading => -5 ≤ leading && leading ≤ 15
    wholeMark := ['.', '0'] }

/-- Messages: never an exponent, and whole numbers have no fraction digit. -/
def messageLayout : Layout :=
  { tie := .away
    plain := fun _ => true
    wholeMark := [] }

end Intake.Double
