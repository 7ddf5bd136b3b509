import Intake.Json.Writer
import Intake.Value.Record

/-!
# The texts of a value

A value is written as compact JSON in two ways, directly or by way of a JSON tree, and is displayed
bare: strings and points in time without quotes, and composite values as their JSON text. Reading
a JSON tree as a value gives every repeated key its first place and its last value; points in time
come back as strings.
-/

set_option autoImplicit false

namespace Intake

mutual

/-- The JSON tree of a value; a point in time becomes the string of its text. -/
def Value.toJson : Value → Json
  | .null => .null
  | .bool b => .bool b
  | .number n => .number n
  | .string s => .string s
  | .date t => .string (String.ofList t.text)
  | .array elements => .array (elementsToJson elements)
  | .object entries => .object (entriesToJson entries)

/-- The JSON trees of the elements of an array. -/
def elementsToJson : List Value → List Json
  | [] => []
  | element :: rest => element.toJson :: elementsToJson rest

/-- The JSON entries of a record. -/
def entriesToJson : List (String × Value) → List (String × Json)
  | [] => []
  | (key, value) :: rest => (key, value.toJson) :: entriesToJson rest

end

mutual

/-- The value of a JSON tree. -/
def Value.ofJson : Json → Value
  | .null => .null
  | .bool b => .bool b
  | .number n => .number n
  | .string s => .string s
  | .array elements => .array (elementsOfJson elements)
  | .object entries => .object (Record.ofEntries (entriesOfJson entries))

/-- The values of the elements of a JSON array. -/
def elementsOfJson : List Json → List Value
  | [] => []
  | element :: rest => Value.ofJson element :: elementsOfJson rest

/-- The values of the entries of a JSON object, repeated keys included. -/
def entriesOfJson : List (String × Json) → List (String × Value)
  | [] => []
  | (key, value) :: rest => (key, Value.ofJson value) :: entriesOfJson rest

end

mutual

/-- The JSON text of a value, written directly. -/
def Value.serialize : Value → List Char
  | .null => "null".toList
  | .bool true => "true".toList
  | .bool false => "false".toList
  | .number n => n.text
  | .string s => Json.quoted s
  | .date t => Json.quoted (String.ofList t.text)
  | .array elements => '[' :: (Json.commaSeparated (serializeElements elements) ++ [']'])
  | .object entries => '{' :: (Json.commaSeparated (serializeEntries entries) ++ ['}'])

/-- The JSON texts of the elements of an array. -/
def serializeElements : List Value → List (List Char)
  | [] => []
  | element :: rest => element.serialize :: serializeElements rest

/-- The JSON texts of the entries of a record. -/
def serializeEntries : List (String × Value) → List (List Char)
  | [] => []
  | (key, value) :: rest =>
    (Json.quoted key ++ ':' :: value.serialize) :: serializeEntries rest

end

/-- The value as it is shown: bare strings and points in time, and JSON text for composites. -/
def Value.display : Value → String
  | .null => "null"
  | .bool true => "true"
  | .bool false => "false"
  | .number n => String.ofList n.text
  | .string s => s
  | .date t => String.ofList t.text
  | composite => composite.toJson.text

end Intake
