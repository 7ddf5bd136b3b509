import Intake.Json.Tree
import Intake.Number.Text

/-!
# Writing JSON

The compact text of a JSON tree: no blanks between the parts, and of the characters of a string
only the quote, the backslash and the controls below the space are escaped.
-/

set_option autoImplicit false

namespace Intake.Json

/-- The hexadecimal digit of a value below sixteen, in lower case. -/
def hexDigit (n : Nat) : Char :=
  if n < 10 then Char.ofNat (48 + n) else Char.ofNat (87 + n)

/-- The text of one character of a string. -/
def escape (c : Char) : List Char :=
  if c = '"' then ['\\', '"']
  else if c = '\\' then ['\\', '\\']
  else if c.toNat < 32 then
    if c.toNat = 8 then ['\\', 'b']
    else if c.toNat = 9 then ['\\', 't']
    else if c.toNat = 10 then ['\\', 'n']
    else if c.toNat = 12 then ['\\', 'f']
    else if c.toNat = 13 then ['\\', 'r']
    else ['\\', 'u', '0', '0', hexDigit (c.toNat / 16), hexDigit (c.toNat % 16)]
  else [c]

/-- A string in quotes. -/
def quoted (s : String) : List Char :=
  '"' :: (s.toList.flatMap escape ++ ['"'])

/-- Texts joined by commas. -/
def commaSeparated : List (List Char) → List Char
  | [] => []
  | [text] => text
  | text :: rest => text ++ ',' :: commaSeparated rest

mutual

/-- The compact text of a tree. -/
def render : Json → List Char
  | .null => "null".toList
  | .bool true => "true".toList
  | .bool false => "false".toList
  | .number n => n.text
  | .string s => quoted s
  | .array elements => '[' :: (commaSeparated (renderAll elements) ++ [']'])
  | .object entries => '{' :: (commaSeparated (renderEntries entries) ++ ['}'])

/-- The texts of the elements of an array. -/
def renderAll : List Json → List (List Char)
  | [] => []
  | element :: rest => element.render :: renderAll rest

/-- The texts of the entries of an object. -/
def renderEntries : List (String × Json) → List (List Char)
  | [] => []
  | (key, value) :: rest => (quoted key ++ ':' :: value.render) :: renderEntries rest

end

/-- The compact text of a tree, as a string. -/
def text (tree : Json) : String :=
  String.ofList tree.render

end Intake.Json
