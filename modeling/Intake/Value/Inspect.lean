import Intake.Text.Blank
import Intake.Value.Basic
import Intake.Calendar.Instant
import Intake.Number.Text

/-!
# Inspecting values

A detailed text that names the constructor of every part, for people who look at a compiled form.
Strings are quoted, and their quotes, backslashes and invisible characters escaped.
-/

set_option autoImplicit false

namespace Intake.Inspect

/-- The lower-case hexadecimal digits of a number. -/
def hexDigits (n : Nat) : List Char :=
  Nat.toDigits 16 n

/-- The text of one character of a quoted string. -/
def escape (c : Char) : List Char :=
  if c = '"' then ['\\', '"']
  else if c = '\\' then ['\\', '\\']
  else if c = '\t' then ['\\', 't']
  else if c = '\n' then ['\\', 'n']
  else if c = '\r' then ['\\', 'r']
  else if c.toNat = 0 then ['\\', '0']
  else if c.toNat < 32 ∨ (127 ≤ c.toNat ∧ c.toNat < 160) ∨ (c ≠ ' ' ∧ Text.isBlank c) then
    ['\\', 'u', '{'] ++ hexDigits c.toNat ++ ['}']
  else [c]

/-- A string in quotes. -/
def quoted (s : String) : String :=
  String.ofList ('"' :: (s.toList.flatMap escape ++ ['"']))

/-- Texts in a row, with a comma and a space between them. -/
def row (texts : List String) : String :=
  String.intercalate ", " texts

/-- An optional text. -/
def optional : Option String → String
  | none => "None"
  | some text => "Some(" ++ text ++ ")"

mutual

/-- The detailed text of a value. -/
def value : Value → String
  | .null => "Null"
  | .bool b => "Bool(" ++ (if b then "true" else "false") ++ ")"
  | .number n => "Number(Number(" ++ String.ofList n.text ++ "))"
  | .string s => "String(" ++ quoted s ++ ")"
  | .date t => "Date(" ++ String.ofList t.text ++ ")"
  | .array elements => "Array([" ++ row (values elements) ++ "])"
  | .object fields => "Object(\x7b" ++ row (entries fields) ++ "\x7d)"

/-- The detailed texts of the elements of an array. -/
def values : List Value → List String
  | [] => []
  | element :: rest => value element :: values rest

/-- The detailed texts of the entries of a record. -/
def entries : List (String × Value) → List String
  | [] => []
  | (key, v) :: rest => (quoted key ++ ": " ++ value v) :: entries rest

end

end Intake.Inspect
