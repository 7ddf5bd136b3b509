import Intake.Text.Digits
import Intake.Text.Fields

/-!
# Internet addresses

The texts that are addresses of the internet protocol, of either version. Version 4 has four numbers
joined by points. Version 6 has eight groups joined by colons, of which a run may be left out; the
last two groups may be written as an address of version 4.
-/

set_option autoImplicit false

namespace Intake.Net

open Intake.Text

/-- Whether the text is a hexadecimal digit of either case. -/
def isHexDigit (c : Char) : Bool :=
  isDigit c || ('a' ≤ c && c ≤ 'f') || ('A' ≤ c && c ≤ 'F')

/-- Whether the text is a number up to 255 without leading zeros. -/
def isOctet (cs : List Char) : Bool :=
  cs != [] && cs.length ≤ 3 && cs.all isDigit && (cs.head? != some '0' || cs == ['0'])
    && ofDigits cs ≤ 255

/-- Whether the text is an address of version 4. -/
def isIpv4 (cs : List Char) : Bool :=
  let octets := fields '.' cs
  octets.length == 4 && octets.all isOctet

/-- Whether the text is one group of an address of version 6. -/
def isGroup (cs : List Char) : Bool :=
  cs != [] && cs.length ≤ 4 && cs.all isHexDigit

/-- The number of groups in a list of them; the last one may be an address of version 4, which counts
for two, if that is allowed. -/
def countGroups? (ipv4Last : Bool) : List (List Char) → Option Nat
  | [] => some 0
  | [last] =>
    if isGroup last then some 1 else if ipv4Last && isIpv4 last then some 2 else none
  | group :: rest =>
    if isGroup group then (countGroups? ipv4Last rest).map (· + 1) else none

/-- The number of groups of a text, which may be empty. -/
def groupsOf? (ipv4Last : Bool) (cs : List Char) : Option Nat :=
  if cs = [] then some 0 else countGroups? ipv4Last (fields ':' cs)

/-- The parts before and after the first pair of colons. -/
def splitAtGap? : List Char → Option (List Char × List Char)
  | [] => none
  | ':' :: ':' :: rest => some ([], rest)
  | c :: rest => (splitAtGap? rest).map fun (before, after) => (c :: before, after)

/-- Whether the text is an address of version 6. -/
def isIpv6 (cs : List Char) : Bool :=
  match splitAtGap? cs with
  | none => groupsOf? true cs == some 8
  | some (before, after) =>
    match groupsOf? false before, groupsOf? true after with
    | some m, some n => m + n ≤ 7
    | _, _ => false

end Intake.Net
