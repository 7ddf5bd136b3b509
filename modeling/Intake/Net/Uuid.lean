import Intake.Net.Address

/-!
# Universally unique identifiers

Thirty-two hexadecimal digits, or the same in five runs joined by hyphens, which may stand in braces
or after the name of their space.
-/

set_option autoImplicit false

namespace Intake.Net

open Intake.Text

/-- Whether the text is five runs of hexadecimal digits joined by hyphens. -/
def isHyphenatedUuid (cs : List Char) : Bool :=
  let runs := fields '-' cs
  runs.map List.length == [8, 4, 4, 4, 12] && runs.all fun run => run.all isHexDigit

/-- Whether the text is a universally unique identifier. -/
def isUuid (cs : List Char) : Bool :=
  (cs.length == 32 && cs.all isHexDigit)
    || isHyphenatedUuid cs
    || (cs.length == 38 && cs.head? == some '{' && cs.getLast? == some '}'
      && isHyphenatedUuid (cs.tail.dropLast))
    || ("urn:uuid:".toList.isPrefixOf cs && isHyphenatedUuid (cs.drop 9))

end Intake.Net
