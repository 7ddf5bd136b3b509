import Intake.Rule.Basic
import Intake.Value.Text

/-!
# Further rules

Rules beyond the built-in ones, for registries that name them. Unlike those they may change a value
and may look at its key, its record and the schema.
-/

set_option autoImplicit false

namespace Intake.RuleFactory

/-- A rule that any parameter makes. -/
def always (rule : Value → String → Schema → Rule) : RuleFactory := fun param name schema =>
  Reported.quiet (.ok (rule param name schema))

/-- Strings in small letters of ASCII; other values as they are. -/
def lowercase : RuleFactory :=
  always fun _ _ _ value _ _ =>
    match value with
    | .string s => .ok (.string (String.ofList (s.toList.map Char.toLower)))
    | other => .ok other

/-- The key and the number of entries of the record around it. -/
def echoKey : RuleFactory :=
  always fun _ _ _ _ key record =>
    .ok (.string (key ++ ":" ++ Text.numeral record.length))

/-- The value must be the same as that of another field of the record. -/
def sameAs : RuleFactory := fun param name _ =>
  match param with
  | .string other =>
    Reported.quiet (.ok fun value _ record =>
      match Record.get? record other with
      | some found =>
        if found.same value then .ok value else .error (.rule name "fields differ")
      | none => .error (.rule name "fields differ"))
  | _ => Reported.quiet (.error (.invalidRule name "expected a field name"))

/-- What the rule knows, in one line: its name and parameter, the types and the number of rules of its
schema, and the value. -/
def describe : RuleFactory :=
  always fun param name schema value _ _ =>
    .ok (.string (name ++ "=" ++ param.display
      ++ ";types=" ++ String.intercalate "," schema.typeNames
      ++ ";rules=" ++ Text.numeral schema.rules.entries.length
      ++ ";value=" ++ value.display))

/-- Null for every value. -/
def nullify : RuleFactory :=
  always fun _ _ _ _ _ _ => .ok .null

end Intake.RuleFactory
