import Intake.Text.Digits
import Intake.Text.Fields
import Intake.Text.Marks
import Intake.Text.Ranges

/-!
# Domains

The texts that may name a domain, in all scripts: capitals, wide forms and other full stops are mapped to
the characters that they stand for, ignored characters are dropped, and encoded labels are decoded and
checked. This is the mapping of internationalised domain names as far as the tables below go: whether a
character beyond ASCII is assigned, and the direction in which it is written, is not looked at.
-/

set_option autoImplicit false

namespace Intake.Net

open Intake.Text

/-- Characters beyond ASCII that no domain holds: controls, blanks, characters for private use, and
those that stand for others that are forbidden. -/
def forbiddenRanges : List (Nat × Nat) :=
  [ (0x80, 0xA0), (0xA8, 0xA8), (0xAF, 0xAF), (0xB4, 0xB4), (0xB8, 0xB8), (0x2D8, 0x2DD)
  , (0x37A, 0x37A), (0x384, 0x385), (0x600, 0x605), (0x61C, 0x61C), (0x6DD, 0x6DD)
  , (0x70F, 0x70F), (0x890, 0x891), (0x8E2, 0x8E2), (0x1680, 0x1680), (0x1FBD, 0x1FBD)
  , (0x1FBF, 0x1FC1), (0x1FCD, 0x1FCF), (0x1FDD, 0x1FDF), (0x1FED, 0x1FEE), (0x1FFD, 0x1FFE)
  , (0x2000, 0x200A), (0x200C, 0x200F), (0x2017, 0x2017), (0x2028, 0x202F), (0x203E, 0x203E)
  , (0x2047, 0x2049), (0x205F, 0x205F), (0x2061, 0x2063), (0x2066, 0x206F), (0x2100, 0x2101)
  , (0x2105, 0x2106), (0x2A74, 0x2A74), (0x3000, 0x3000), (0x309B, 0x309C), (0xE000, 0xF8FF)
  , (0xFC5E, 0xFC63), (0xFDD0, 0xFDEF), (0xFDFA, 0xFDFB), (0xFE13, 0xFE13), (0xFE16, 0xFE16)
  , (0xFE47, 0xFE4C), (0xFE55, 0xFE56), (0xFE5F, 0xFE5F), (0xFE64, 0xFE65), (0xFE68, 0xFE68)
  , (0xFE6A, 0xFE6B), (0xFE70, 0xFE70), (0xFE72, 0xFE72), (0xFE74, 0xFE74), (0xFE76, 0xFE76)
  , (0xFE78, 0xFE78), (0xFE7A, 0xFE7A), (0xFE7C, 0xFE7C), (0xFE7E, 0xFE7E), (0xFFE3, 0xFFE3)
  , (0xFFF9, 0xFFFF), (0x110BD, 0x110BD), (0x110CD, 0x110CD), (0x13430, 0x13438)
  , (0x1BCA0, 0x1BCA3), (0x1D173, 0x1D17A), (0xE0001, 0xE0001), (0xE0020, 0xE007F)
  , (0xF0000, 0x10FFFF) ]

/-- Characters that a domain drops. -/
def ignoredRanges : List (Nat × Nat) :=
  [ (0xAD, 0xAD), (0x34F, 0x34F), (0x180B, 0x180F), (0x200B, 0x200B), (0x2060, 0x2060)
  , (0x2064, 0x2064), (0xFE00, 0xFE0F), (0xFEFF, 0xFEFF), (0xE0100, 0xE01EF) ]

/-- Characters of ASCII that no domain holds. -/
def forbiddenAscii : List Char :=
  ['%', '#', '/', ':', '<', '>', '?', '@', '[', '\\', ']', '^', '|']

/-- Whether a domain may hold the character, once it is mapped. -/
def isDomainChar (c : Char) : Bool :=
  let n := c.toNat
  if n < 128 then 32 < n && n != 127 && !forbiddenAscii.contains c
  else !inRanges forbiddenRanges n && n % 0x10000 < 0xFFFE

/-- What a character of a domain is mapped to: small letters for capitals, ASCII for its wide forms,
the point for other full stops, and nothing for characters that are ignored. -/
def mapped (c : Char) : List Char :=
  let n := c.toNat
  if n < 128 then [c.toLower]
  else if 0xFF01 ≤ n ∧ n ≤ 0xFF5E then [(Char.ofNat (n - 0xFEE0)).toLower]
  else if n = 0x3002 ∨ n = 0xFF61 then ['.']
  else if inRanges ignoredRanges n then []
  else [c]

/-- The value of a digit of a label that encodes other characters. -/
def labelDigit? (c : Char) : Option Nat :=
  if 'a' ≤ c ∧ c ≤ 'z' then some (c.toNat - 97)
  else if isDigit c then some (c.toNat - 22)
  else none

/-- Divides a distance by 35 while it is large, at most so many times, and gives the bias. -/
def biasOf : Nat → Nat → Nat → Nat
  | 0, delta, bias => bias + 36 * delta / (delta + 38)
  | bound + 1, delta, bias =>
    if 455 < delta then biasOf bound (delta / 35) (bias + 36)
    else bias + 36 * delta / (delta + 38)

/-- The bias of the next digits after a character has been placed at a distance from the last one
among so many. -/
def nextBias (distance count : Nat) (first : Bool) : Nat :=
  let halved := if first then distance / 700 else distance / 2
  let delta := halved + halved / count
  biasOf delta delta 0

/-- The state of decoding a label: the number read so far within the current one, the weight and the
threshold position of the next digit. -/
structure LabelDigits where
  /-- The sum of the digits so far. -/
  sum : Nat
  /-- The weight of the next digit. -/
  weight : Nat
  /-- The position of the next digit. -/
  position : Nat

/-- Decodes the digits of a label into the characters that they insert among the given ones. The code
and the place of the next character are counted on from the last one inserted. -/
def decodeLabel? (out : List Char) (first : Bool) (code place bias : Nat) (state : LabelDigits) :
    List Char → Option (List Char)
  | [] => if state.position = 36 then some out else none
  | c :: rest =>
    match labelDigit? c with
    | none => none
    | some digit =>
      let sum := state.sum + digit * state.weight
      let threshold :=
        if state.position ≤ bias then 1
        else if bias + 26 ≤ state.position then 26
        else state.position - bias
      if digit < threshold then
        let count := out.length + 1
        let total := place + sum
        let code := code + total / count
        let place := total % count
        if 0x10FFFF < code ∨ (0xD800 ≤ code ∧ code ≤ 0xDFFF) then none
        else
          decodeLabel? (out.take place ++ Char.ofNat code :: out.drop place) false code (place + 1)
            (nextBias sum count first) ⟨0, 1, 36⟩ rest
      else
        decodeLabel? out first code place bias
          ⟨sum, state.weight * (36 - threshold), state.position + 36⟩ rest

/-- Splits an encoded label at its last hyphen into plain characters and digits. -/
def splitLabel (cs : List Char) : List Char × List Char :=
  match (fields '-' cs).reverse with
  | digits :: first :: others => (['-'].intercalate (others.reverse ++ [first]), digits)
  | _ => ([], cs)

/-- Whether the label that an encoded one stands for is in its mapped form and needs the encoding. -/
def isEncodedLabel (cs : List Char) : Bool :=
  let (plain, digits) := splitLabel cs
  match decodeLabel? plain true 128 0 72 ⟨0, 1, 36⟩ digits with
  | some label =>
    label.any (fun c => 128 ≤ c.toNat)
      && label.all (fun c => mapped c == [c] && isDomainChar c)
  | none => false

/-- Whether the text may be one label of a domain. -/
def isLabel (cs : List Char) : Bool :=
  (match cs with
    | c :: _ => !inTables marks c.toNat
    | [] => true)
    && (match cs with
      | 'x' :: 'n' :: '-' :: '-' :: rest => isEncodedLabel rest
      | _ => true)

/-- The mapped form of a domain, if the text is one or is empty. -/
def mappedDomain? (cs : List Char) : Option (List Char) :=
  let domain := cs.flatMap mapped
  if domain.all isDomainChar ∧ (fields '.' domain).all isLabel then some domain else none

end Intake.Net
