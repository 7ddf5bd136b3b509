import Intake.Net.Address

/-!
# Hosts

The texts that may name a host in the address of a resource: an address of version 6 in brackets, a
domain, or a text that ends in a number and so must be an address of version 4 in its wide sense. A
domain may hold percent-encoded characters and characters of all scripts; which of these make a domain is
left to whoever asks.
-/

set_option autoImplicit false

namespace Intake.Net

open Intake.Text

/-- The value of a hexadecimal digit, and zero for other characters. -/
def hexValue (c : Char) : Nat :=
  (hexValue? c).getD 0

/-- Decodes percent-encoded bytes; a percent sign that no two digits follow stands for itself. -/
def percentDecode : List Char → List UInt8
  | [] => []
  | '%' :: a :: b :: rest =>
    if isHexDigit a && isHexDigit b then
      UInt8.ofNat (16 * hexValue a + hexValue b) :: percentDecode rest
    else 37 :: percentDecode (a :: b :: rest)
  | c :: rest => (String.singleton c).toUTF8.toList ++ percentDecode rest

/-- The text of a host with its percent-encoded bytes decoded, if they make text. -/
def decodedText? (cs : List Char) : Option (List Char) :=
  if cs.contains '%' then
    (String.fromUTF8? ⟨(percentDecode cs).toArray⟩).map String.toList
  else some cs

/-- The form in which a domain is compared, if the text is one after its percent-encoded bytes are decoded.
What a domain is in all scripts is a parameter. -/
def domain? (mappedDomain? : List Char → Option (List Char)) (cs : List Char) : Option (List Char) :=
  match (decodedText? cs).bind mappedDomain? with
  | some domain => if domain = [] then none else some domain
  | none => none

/-- The number that a part of an address denotes: hexadecimal after `0x`, octal after a zero, else
decimal. -/
def addressPart? (cs : List Char) : Option Nat :=
  let value (base : Nat) (ds : List Char) : Nat :=
    ds.foldl (fun n c => base * n + hexValue c) 0
  match cs with
  | [] => none
  | '0' :: 'x' :: ds => if ds.all isHexDigit then some (value 16 ds) else none
  | ['0'] => some 0
  | '0' :: ds => if ds.all fun c => '0' ≤ c && c ≤ '7' then some (value 8 ds) else none
  | ds => if ds.all isDigit then some (value 10 ds) else none

/-- The parts of a domain; a point at its end begins none. -/
def domainParts (domain : List Char) : List (List Char) :=
  match (fields '.' domain).reverse with
  | [] :: first :: others => (first :: others).reverse
  | parts => parts.reverse

/-- Whether the last part of a domain is a number. -/
def endsInNumber (domain : List Char) : Bool :=
  match (domainParts domain).getLast? with
  | some last => (last != [] && last.all isDigit) || (addressPart? last).isSome
  | none => false

/-- Whether numbers make an address: the last one fills the places that the others leave, which are
one byte each. -/
def fitsAddress : List Nat → Bool
  | [] => false
  | numbers =>
    let places := numbers.length
    places ≤ 4 && numbers.dropLast.all (· ≤ 255)
      && (numbers.getLast?.getD 0) < Nat.pow 256 (5 - places)

/-- Whether a domain that ends in a number is an address of version 4. -/
def isWideIpv4 (domain : List Char) : Bool :=
  let numbers := (domainParts domain).map addressPart?
  numbers.all Option.isSome && fitsAddress (numbers.map fun n => n.getD 0)

/-- Whether the text is an address of version 6 in brackets. -/
def isBracketedIpv6 (cs : List Char) : Bool :=
  match cs with
  | '[' :: rest => rest.getLast? == some ']' && isIpv6 rest.dropLast
  | _ => false

/-- Whether the text names a host of a scheme that has hosts. -/
def isHost (mappedDomain? : List Char → Option (List Char)) (cs : List Char) : Bool :=
  match cs with
  | '[' :: _ => isBracketedIpv6 cs
  | _ =>
    match domain? mappedDomain? cs with
    | some domain => if endsInNumber domain then isWideIpv4 domain else true
    | none => false

/-- Characters that a host of any other scheme does not hold. -/
def forbiddenOpaque : List Char :=
  ['\x00', '\t', '\n', '\r', ' ', '#', '/', ':', '<', '>', '?', '@', '[', '\\', ']', '^', '|']

/-- Whether the text names a host of any other scheme. -/
def isOpaqueHost (cs : List Char) : Bool :=
  match cs with
  | '[' :: _ => isBracketedIpv6 cs
  | _ => cs.all fun c => !forbiddenOpaque.contains c

end Intake.Net
