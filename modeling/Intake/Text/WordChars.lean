import Intake.Text.Letters
import Intake.Text.Marks

/-!
# Word characters

The characters that words are made of, and the decimal digits of all scripts, for the classes `\w` and
`\d` of search patterns.
-/

set_option autoImplicit false

namespace Intake.Text

/-- The decimal digits of all scripts. -/
def decimalDigits : List (Nat × Nat) :=
  [ (0x30, 0x39), (0x660, 0x669), (0x6F0, 0x6F9), (0x7C0, 0x7C9)
  , (0x966, 0x96F), (0x9E6, 0x9EF), (0xA66, 0xA6F), (0xAE6, 0xAEF)
  , (0xB66, 0xB6F), (0xBE6, 0xBEF), (0xC66, 0xC6F), (0xCE6, 0xCEF)
  , (0xD66, 0xD6F), (0xDE6, 0xDEF), (0xE50, 0xE59), (0xED0, 0xED9)
  , (0xF20, 0xF29), (0x1040, 0x1049), (0x1090, 0x1099), (0x17E0, 0x17E9)
  , (0x1810, 0x1819), (0x1946, 0x194F), (0x19D0, 0x19D9), (0x1A80, 0x1A89)
  , (0x1A90, 0x1A99), (0x1B50, 0x1B59), (0x1BB0, 0x1BB9), (0x1C40, 0x1C49)
  , (0x1C50, 0x1C59), (0xA620, 0xA629), (0xA8D0, 0xA8D9), (0xA900, 0xA909)
  , (0xA9D0, 0xA9D9), (0xA9F0, 0xA9F9), (0xAA50, 0xAA59), (0xABF0, 0xABF9)
  , (0xFF10, 0xFF19), (0x104A0, 0x104A9), (0x10D30, 0x10D39), (0x11066, 0x1106F)
  , (0x110F0, 0x110F9), (0x11136, 0x1113F), (0x111D0, 0x111D9), (0x112F0, 0x112F9)
  , (0x11450, 0x11459), (0x114D0, 0x114D9), (0x11650, 0x11659), (0x116C0, 0x116C9)
  , (0x11730, 0x11739), (0x118E0, 0x118E9), (0x11950, 0x11959), (0x11C50, 0x11C59)
  , (0x11D50, 0x11D59), (0x11DA0, 0x11DA9), (0x16A60, 0x16A69), (0x16AC0, 0x16AC9)
  , (0x16B50, 0x16B59), (0x1D7CE, 0x1D7FF), (0x1E140, 0x1E149), (0x1E2F0, 0x1E2F9)
  , (0x1E950, 0x1E959), (0x1FBF0, 0x1FBF9) ]

/-- Numerals made of letters. -/
def letterNumbers : List (Nat × Nat) :=
  [ (0x16EE, 0x16F0), (0x2160, 0x2182), (0x2185, 0x2188), (0x3007, 0x3007)
  , (0x3021, 0x3029), (0x3038, 0x303A), (0xA6E6, 0xA6EF), (0x10140, 0x10174)
  , (0x10341, 0x10341), (0x1034A, 0x1034A), (0x103D1, 0x103D5), (0x12400, 0x1246E) ]

/-- Connecting punctuation, such as the low line. -/
def connectors : List (Nat × Nat) :=
  [ (0x5F, 0x5F), (0x203F, 0x2040), (0x2054, 0x2054), (0xFE33, 0xFE34)
  , (0xFE4D, 0xFE4F), (0xFF3F, 0xFF3F) ]

/-- Joiners, and letters in circles and squares. -/
def otherWordChars : List (Nat × Nat) :=
  [ (0x200C, 0x200D), (0x24B6, 0x24E9), (0x1F130, 0x1F149), (0x1F150, 0x1F169)
  , (0x1F170, 0x1F189) ]

/-- Whether the character is a letter of any script. -/
def isLetter (c : Char) : Bool :=
  inTables letters c.toNat

/-- Whether the character is a decimal digit of any script. -/
def isDecimalDigit (c : Char) : Bool :=
  inRanges decimalDigits c.toNat

/-- Whether the character is a letter, a digit or the low line of ASCII. -/
def isAsciiWordChar (c : Char) : Bool :=
  c.isAlphanum || c == '_'

/-- Whether the character is part of words: a letter, a mark, a digit, a connector or one of a few
others. -/
def isWordChar (c : Char) : Bool :=
  let n := c.toNat
  if n < 128 then isAsciiWordChar c
  else
    inTables letters n || inTables marks n || inRanges decimalDigits n
      || inRanges letterNumbers n || inRanges connectors n || inRanges otherWordChars n

end Intake.Text
