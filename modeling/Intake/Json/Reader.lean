import Intake.Json.NumberReader

/-!
# Reading JSON

A strict reader of JSON text. Blanks are the space, the tab and the two line ends; strings hold no
bare control characters and no unpaired surrogates; arrays and objects nest at most `maxDepth`
deep. Objects keep all their entries.
-/

set_option autoImplicit false

namespace Intake.Json

open Intake.Text

/-- The number of arrays and objects that may stand inside one another. -/
def maxDepth : Nat := 127

/-- Whether the character separates the parts of a document. -/
def isSpace (c : Char) : Bool :=
  c == ' ' || c == '\t' || c == '\n' || c == '\r'

/-- Skips the blanks at the front of the text. -/
def skipSpace (cs : List Char) : List Char :=
  cs.dropWhile isSpace

/-- Where the reading of a string stands. -/
inductive StringState
  /-- Between two characters. -/
  | plain
  /-- After a backslash. -/
  | escape
  /-- Within the hexadecimal digits of an escape: how many are left, the value of those read, and the
  high surrogate that the escape completes, if any. -/
  | hex (left value : Nat) (high : Option Nat)
  /-- After a high surrogate, where a backslash must follow. -/
  | lowBackslash (high : Nat)
  /-- After that backslash, where a `u` must follow. -/
  | lowMark (high : Nat)

/-- The character of an escape of one letter. -/
def simpleEscape? (c : Char) : Option Char :=
  if c = '"' ∨ c = '\\' ∨ c = '/' then some c
  else if c = 'b' then some '\x08'
  else if c = 'f' then some '\x0c'
  else if c = 'n' then some '\n'
  else if c = 'r' then some '\r'
  else if c = 't' then some '\t'
  else none

/-- What the last hexadecimal digit of an escape gives: a character, or the need for a low
surrogate. A surrogate of the wrong kind gives nothing. -/
def completeHex? (value : Nat) (high : Option Nat) : Option (Char ⊕ Nat) :=
  match high with
  | some h =>
    if 0xDC00 ≤ value ∧ value ≤ 0xDFFF then
      some (.inl (Char.ofNat (0x10000 + (h - 0xD800) * 0x400 + (value - 0xDC00))))
    else none
  | none =>
    if 0xD800 ≤ value ∧ value ≤ 0xDBFF then some (.inr value)
    else if 0xDC00 ≤ value ∧ value ≤ 0xDFFF then none
    else some (.inl (Char.ofNat value))

/-- Reads the rest of a string up to its closing quote. -/
def stringRest? : StringState → List Char → Option (List Char × List Char)
  | _, [] => none
  | .plain, c :: rest =>
    if c = '"' then some ([], rest)
    else if c = '\\' then stringRest? .escape rest
    else if c.toNat < 32 then none
    else (stringRest? .plain rest).map fun (cs, after) => (c :: cs, after)
  | .escape, c :: rest =>
    if c = 'u' then stringRest? (.hex 4 0 none) rest
    else match simpleEscape? c with
      | some e => (stringRest? .plain rest).map fun (cs, after) => (e :: cs, after)
      | none => none
  | .hex left value high, c :: rest =>
    match hexValue? c with
    | none => none
    | some digit =>
      let value := 16 * value + digit
      if 1 < left then stringRest? (.hex (left - 1) value high) rest
      else match completeHex? value high with
        | none => none
        | some (.inr h) => stringRest? (.lowBackslash h) rest
        | some (.inl e) => (stringRest? .plain rest).map fun (cs, after) => (e :: cs, after)
  | .lowBackslash high, c :: rest => if c = '\\' then stringRest? (.lowMark high) rest else none
  | .lowMark high, c :: rest => if c = 'u' then stringRest? (.hex 4 0 (some high)) rest else none

/-- Reads the rest of a string after its opening quote. -/
def string? (cs : List Char) : Option (String × List Char) :=
  (stringRest? .plain cs).map fun (content, after) => (String.ofList content, after)

/-- Reads the elements of an array that has some, up to its bracket. The number bounds how many. -/
def elements? (element? : List Char → Option (Json × List Char)) :
    Nat → List Char → Option (List Json × List Char)
  | 0, _ => none
  | bound + 1, cs => do
    let (element, cs) ← element? cs
    match skipSpace cs with
    | ',' :: rest =>
      let (others, cs) ← elements? element? bound rest
      some (element :: others, cs)
    | ']' :: rest => some ([element], rest)
    | _ => none

/-- Reads the entries of an object that has some, up to its brace. The number bounds how many. -/
def entries? (value? : List Char → Option (Json × List Char)) :
    Nat → List Char → Option (List (String × Json) × List Char)
  | 0, _ => none
  | bound + 1, cs =>
    match skipSpace cs with
    | '"' :: rest => do
      let (key, cs) ← string? rest
      match skipSpace cs with
      | ':' :: rest =>
        let (value, cs) ← value? rest
        match skipSpace cs with
        | ',' :: rest =>
          let (others, cs) ← entries? value? bound rest
          some ((key, value) :: others, cs)
        | '}' :: rest => some ([(key, value)], rest)
        | _ => none
      | _ => none
    | _ => none

/-- Reads an array after its bracket. -/
def array? (element? : List Char → Option (Json × List Char)) (bound : Nat) (cs : List Char) :
    Option (Json × List Char) :=
  match skipSpace cs with
  | ']' :: rest => some (.array [], rest)
  | _ => (elements? element? bound cs).map fun (elements, after) => (.array elements, after)

/-- Reads an object after its brace. -/
def object? (value? : List Char → Option (Json × List Char)) (bound : Nat) (cs : List Char) :
    Option (Json × List Char) :=
  match skipSpace cs with
  | '}' :: rest => some (.object [], rest)
  | _ => (entries? value? bound cs).map fun (entries, after) => (.object entries, after)

/-- Reads a value that holds no other value. -/
def scalar? (cs : List Char) : Option (Json × List Char) :=
  match cs with
  | '"' :: rest => (string? rest).map fun (s, after) => (.string s, after)
  | 'n' :: 'u' :: 'l' :: 'l' :: rest => some (.null, rest)
  | 't' :: 'r' :: 'u' :: 'e' :: rest => some (.bool true, rest)
  | 'f' :: 'a' :: 'l' :: 's' :: 'e' :: rest => some (.bool false, rest)
  | _ => (number? cs).map fun (n, after) => (.number n, after)

/-- Reads a value at the front of the text: so many levels of arrays and objects deep at most, and
with at most so many elements in each. -/
def value? (bound : Nat) : Nat → List Char → Option (Json × List Char)
  | 0, cs => scalar? (skipSpace cs)
  | depth + 1, cs =>
    match skipSpace cs with
    | '[' :: rest => array? (value? bound depth) bound rest
    | '{' :: rest => object? (value? bound depth) bound rest
    | cs => scalar? cs

/-- Reads a whole text as a document. Its length bounds the elements of its arrays and objects. -/
def read? (s : String) : Option Json :=
  let cs := s.toList
  match value? cs.length maxDepth cs with
  | some (tree, rest) => if skipSpace rest = [] then some tree else none
  | none => none

end Intake.Json
