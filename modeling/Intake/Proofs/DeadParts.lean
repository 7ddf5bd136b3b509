import Intake.Proofs.LiveParameters
import Intake.Proofs.UnseenChanges
import Intake.Rule.Extra

/-!
# What compiling ignores

Some parts of a schema are never judged: an element schema that belongs to no array, and parameters of
keys that stand for no rule. Compiling the fields of a record fails exactly with the first rejection of a
live parameter (`compile_eq_first_rejection`), but a live parameter is judged together with the whole schema
around it, and that holds the other parts as well. So a factory may see them (`dead_parts_seen`). Where no
factory looks at the schema, they make no difference: without them there are the same live rules at every
depth (`Unseen.map_liveInFields`), and the same plans.
-/

set_option autoImplicit false

namespace Intake

/-! ## Schemas without some of their parts -/

/-- The parameters of the keys that a test allows. -/
def RuleTable.filter (keep : String → Bool) (table : RuleTable) : RuleTable :=
  ⟨table.entries.filter fun entry => keep entry.1, table.sorted.filter _⟩

namespace Compiler

variable {compiler : Compiler} {f : Schema → Schema}

/-- A key that stands for a rule: it has a factory and is none of the schema language. -/
def isRule (compiler : Compiler) (key : String) : Bool :=
  !Schema.isReserved key && compiler.rules.contains key

/-- A schema without what is not live in it: an element schema that belongs to no array, and parameters
of keys that stand for no rule. -/
def dropDead (compiler : Compiler) (schema : Schema) : Schema :=
  { schema with
    items := if "array" ∈ schema.typeNames then schema.items else none
    rules := schema.rules.filter compiler.isRule }

/-- The entries of keys that stand for rules hold all live rules. -/
theorem liveRules_filter (entries : List (String × Value)) :
    compiler.liveRules (entries.filter fun entry => compiler.isRule entry.1)
      = compiler.liveRules entries := by
  unfold liveRules
  rw [List.filterMap_filter]
  congr 1
  funext ⟨key, param⟩
  by_cases reserved : Schema.isReserved key
  · simp [isRule, reserved]
  · cases found : compiler.rules.get? key <;> simp [isRule, reserved, Registry.contains, found]

/-- To drop what is not live is an unseen change. -/
theorem unseen_dropDead : compiler.Unseen compiler.dropDead where
  type _ := rfl
  default _ := rfl
  properties _ := rfl
  rules _ := liveRules_filter _
  items _ array := if_pos array

/-! ## Live rules after unseen changes -/

/-- The live parameters of a schema, by its parts. -/
theorem liveInSchema_eq (schema : Schema) :
    compiler.liveInSchema schema = compiler.liveInProperties schema.properties ++
      (alternativeTypes schema).flatMap fun typeName =>
        (if typeName = some "array" then compiler.liveInItems schema.items else [])
          ++ compiler.liveInRules schema := by
  cases schema
  rfl

/-- The live rules of a schema, by its parts. -/
theorem map_liveInSchema (schema : Schema) :
    (compiler.liveInSchema schema).map LiveParameter.toLiveRule
      = (compiler.liveInProperties schema.properties).map LiveParameter.toLiveRule ++
        (alternativeTypes schema).flatMap fun typeName =>
          (if typeName = some "array" then
            (compiler.liveInItems schema.items).map LiveParameter.toLiveRule else [])
            ++ compiler.liveRules schema.rules.entries := by
  rw [liveInSchema_eq, List.map_append, List.map_flatMap]
  congr 2
  funext typeName
  have own : (compiler.liveInRules schema).map LiveParameter.toLiveRule
      = compiler.liveRules schema.rules.entries := by
    simp [liveInRules, Function.comp_def]
  rw [List.map_append, own]
  split <;> rfl

/-- A schema that is changed unseen has the same live rules. -/
theorem Unseen.map_liveInSchema_apply (unseen : compiler.Unseen f) (schema : Schema) :
    (compiler.liveInSchema (f schema)).map LiveParameter.toLiveRule
      = (compiler.liveInSchema schema).map LiveParameter.toLiveRule := by
  rw [map_liveInSchema, map_liveInSchema, unseen.properties, unseen.rules, unseen.alternativeTypes_eq]
  congr 1
  refine List.flatMap_congr fun typeName member => ?_
  by_cases array : typeName = some "array"
  · subst array
    rw [unseen.items schema (mem_typeNames_of_mem_alternativeTypes member)]
  · rw [if_neg array, if_neg array]

mutual

/-- A field that is changed unseen has the same live rules: by recursion on the schema. -/
theorem Unseen.map_liveInField (unseen : compiler.Unseen f) : (field : FieldSchema) →
    (compiler.liveInField (field.mapSchemas f)).map LiveParameter.toLiveRule
      = (compiler.liveInField field).map LiveParameter.toLiveRule
  | .single schema => unseen.map_liveInSchema_mapSchema schema
  | .union schemas => unseen.map_liveInSchemas schemas

/-- A schema that is changed unseen at every depth has the same live rules. -/
theorem Unseen.map_liveInSchema_mapSchema (unseen : compiler.Unseen f) :
    (schema : SchemaOver FieldSchema) →
    (compiler.liveInSchema (mapSchema f schema)).map LiveParameter.toLiveRule
      = (compiler.liveInSchema schema).map LiveParameter.toLiveRule
  | ⟨type, default, items, properties, rules⟩ => by
    have element := unseen.map_liveInItems items
    have nested := unseen.map_liveInProperties properties
    rw [mapSchema, unseen.map_liveInSchema_apply, map_liveInSchema, map_liveInSchema]
    simp only [element, nested]
    rfl

/-- Alternatives that are changed unseen have the same live rules. -/
theorem Unseen.map_liveInSchemas (unseen : compiler.Unseen f) :
    (schemas : List (SchemaOver FieldSchema)) →
    (compiler.liveInSchemas (mapAlternatives f schemas)).map LiveParameter.toLiveRule
      = (compiler.liveInSchemas schemas).map LiveParameter.toLiveRule
  | [] => rfl
  | schema :: rest => by
    rw [mapAlternatives, liveInSchemas, liveInSchemas, List.map_append, List.map_append,
      unseen.map_liveInSchema_mapSchema schema, unseen.map_liveInSchemas rest]

/-- An element schema that is changed unseen has the same live rules. -/
theorem Unseen.map_liveInItems (unseen : compiler.Unseen f) : (items : Option FieldSchema) →
    (compiler.liveInItems (mapItems f items)).map LiveParameter.toLiveRule
      = (compiler.liveInItems items).map LiveParameter.toLiveRule
  | none => rfl
  | some field => unseen.map_liveInField field

/-- Nested fields that are changed unseen have the same live rules. -/
theorem Unseen.map_liveInProperties (unseen : compiler.Unseen f) :
    (properties : Option (List (String × FieldSchema))) →
    (compiler.liveInProperties (mapProperties f properties)).map LiveParameter.toLiveRule
      = (compiler.liveInProperties properties).map LiveParameter.toLiveRule
  | none => rfl
  | some fields => unseen.map_liveInFields fields

/-- Fields that are changed unseen have the same live rules. -/
theorem Unseen.map_liveInFields (unseen : compiler.Unseen f) :
    (fields : List (String × FieldSchema)) →
    (compiler.liveInFields (mapFields f fields)).map LiveParameter.toLiveRule
      = (compiler.liveInFields fields).map LiveParameter.toLiveRule
  | [] => rfl
  | (name, field) :: rest => by
    rw [mapFields, liveInFields, liveInFields, List.map_append, List.map_append,
      unseen.map_liveInField field, unseen.map_liveInFields rest]

end

/-- Where no factory looks at the schema, the first rejection depends on the live rules alone. -/
theorem firstRejection_congr {parameters others : List LiveParameter}
    (blind : ∀ live ∈ parameters, live.factory.IsBlind)
    (same : others.map LiveParameter.toLiveRule = parameters.map LiveParameter.toLiveRule) :
    firstRejection others = firstRejection parameters := by
  induction parameters generalizing others with
  | nil =>
    obtain rfl : others = [] := List.map_eq_nil_iff.mp same
    rfl
  | cons live rest ih =>
    obtain ⟨other, others, rfl, rule, later⟩ := List.map_eq_cons_iff.mp same
    have judged : other.judged = live.judged := by
      obtain ⟨_, schema⟩ := other
      subst rule
      exact blind live List.mem_cons_self live.param live.key schema live.schema
    have rejection := ih (fun live member => blind live (List.mem_cons_of_mem _ member)) later
    rw [firstRejection_cons, firstRejection_cons, judged, rejection]

/-! ## Compiling the fields of a record -/

/-- The fields of a record fail to compile with the first rejection of a live parameter. -/
theorem compile_failure? (fields : Properties) :
    failure? (compiler.compile fields).value = firstRejection (compiler.liveInFields fields) := by
  rw [compile, failure?_onSuccess none fun _ _ => rfl, compileFields_failure? fields,
    Option.or_none]

/-- **Compiling fails exactly with the first rejection.** It succeeds if all live parameters are
accepted by their factories, which are handed the schemas around them as well, and else fails with the
error of the first one that is not. Nothing but their judgements counts, and if the factories of the live
parameters do not look at the schema, then what is not live may be left out, at every depth. If no factory
does, then the very same plans are compiled without it. -/
theorem compile_eq_first_rejection (compiler : Compiler) (fields : Properties) :
    ((∃ form, (compiler.compile fields).value = .ok form) ↔
        ∀ live ∈ compiler.liveInFields fields, ∃ rule, live.judged = .ok rule) ∧
      (∀ error, (compiler.compile fields).value = .error error ↔ ∃ before live after,
        compiler.liveInFields fields = before ++ live :: after ∧
          (∀ earlier ∈ before, ∃ rule, earlier.judged = .ok rule) ∧ live.judged = .error error) ∧
      (∀ others : Properties,
        (compiler.liveInFields others).map (fun live => failure? live.judged)
            = (compiler.liveInFields fields).map (fun live => failure? live.judged) →
          failure? (compiler.compile others).value = failure? (compiler.compile fields).value) ∧
      ((∀ live ∈ compiler.liveInFields fields, live.factory.IsBlind) →
        failure? (compiler.compile (mapFields compiler.dropDead fields)).value
          = failure? (compiler.compile fields).value) ∧
      (compiler.IsBlind →
        (compiler.compile (mapFields compiler.dropDead fields)).value
          = (compiler.compile fields).value) := by
  refine ⟨?_, ?_, ?_, ?_, ?_⟩
  · rw [← failure?_eq_none_iff, compile_failure?, firstRejection_eq_none_iff]
  · intro error
    rw [← failure?_eq_some_iff, compile_failure?, firstRejection_eq_some_iff]
  · intro others same
    have alike := congrArg (List.findSome? id) same
    rw [List.findSome?_map, List.findSome?_map] at alike
    rw [compile_failure?, compile_failure?]
    exact alike
  · intro blind
    rw [compile_failure?, compile_failure?]
    exact firstRejection_congr blind (unseen_dropDead.map_liveInFields fields)
  · intro blind
    exact compile_map blind unseen_dropDead fields

/-- A parcel with a title, with an element schema that belongs to no array, and with a bound that is no
number. -/
def parcelFields : Properties :=
  [("label", .single
    { type := some (.one "string")
      items := some (.single { rules := RuleTable.ofList [("maxItems", .string "few")] })
      rules := RuleTable.ofList [("maxLength", Value.ofInt 20), ("title", .string "Label")] }),
    ("weight", .single
      { type := some (.one "number"), rules := RuleTable.ofList [("minimum", .string "light")] })]

/-- Of a parcel the bound is refused, with and without what is not live. -/
theorem parcel_refused :
    let bare := mapFields builtin.dropDead parcelFields
    let error := SchemaError.invalidRule "minimum" "expected a number, found string"
    (builtin.liveInFields parcelFields).map (·.key) = ["maxLength", "minimum"] ∧
      (∀ live ∈ builtin.liveInFields parcelFields, live.factory.IsBlind) ∧ builtin.IsBlind ∧
      (builtin.compile parcelFields).value = .error error ∧
      failure? (builtin.compile bare).value = some error ∧
      (builtin.compile bare).value = .error error := by
  intro bare error
  have refused : (builtin.compile parcelFields).value = .error error := rfl
  have blind : ∀ live ∈ builtin.liveInFields parcelFields, live.factory.IsBlind := by
    have factories : (builtin.liveInFields parcelFields).map (·.factory)
        = [RuleFactory.builtin .maxLength, RuleFactory.builtin .minimum] := rfl
    intro live member
    have listed := List.mem_map_of_mem (f := fun live => live.factory) member
    rw [factories] at listed
    rcases List.mem_pair.mp listed with same | same
    · exact same ▸ RuleFactory.builtin_isBlind _
    · exact same ▸ RuleFactory.builtin_isBlind _
  obtain ⟨-, -, -, alike, same⟩ := compile_eq_first_rejection builtin parcelFields
  refine ⟨rfl, blind, isBlind_builtin, refused, ?_, (same isBlind_builtin).trans refused⟩
  rw [alike blind, refused]
  rfl

/-! ## Factories that look at the schema -/

/-- A rule that accepts everything, but is made only in a schema with a title. -/
def documented : RuleFactory := fun _ name schema =>
  Reported.quiet (if "title" ∈ Record.keys schema.rules.entries then .ok fun value _ _ => .ok value
    else .error (.invalidRule name "expected a title"))

/-- The built-in compiler with a rule that asks for a title and one that describes its schema. -/
def readingCompiler : Compiler :=
  { builtin with
    rules := (builtin.rules.insert "documented" documented).insert "note" RuleFactory.describe }

/-- A field with a title that the rule for documented fields asks for. -/
def documentedFields : Properties :=
  [("label", .single
    { rules := RuleTable.ofList [("documented", .bool true), ("title", .string "Label")] })]

/-- A field with a title next to a rule that describes the schema. -/
def notedFields : Properties :=
  [("label", .single
    { type := some (.one "string")
      rules := RuleTable.ofList [("note", .string "?"), ("title", .string "Label")] })]

/-- **What is not live may be seen.** A factory may refuse its parameter because a title is missing, and a
rule may count the keys around its own: without the title, which stands for no rule, the one field fails to
compile, and the other gives another text. -/
theorem dead_parts_seen :
    (¬ ∀ (compiler : Compiler) (fields : Properties),
      failure? (compiler.compile (mapFields compiler.dropDead fields)).value
        = failure? (compiler.compile fields).value) ∧
      ¬ ∀ (compiler : Compiler) (fields : Properties) (input : Record),
        (compiler.compile (mapFields compiler.dropDead fields)).value.map
            (fun form => (form.sanitize input).value)
          = (compiler.compile fields).value.map fun form => (form.sanitize input).value := by
  constructor
  · intro unaffected
    have whole : failure? (readingCompiler.compile documentedFields).value = none := rfl
    have bare : failure? (readingCompiler.compile
        (mapFields readingCompiler.dropDead documentedFields)).value
          = some (.invalidRule "documented" "expected a title") := rfl
    have same := unaffected readingCompiler documentedFields
    rw [whole, bare] at same
    cases same
  · intro unaffected
    have whole : (readingCompiler.compile notedFields).value.map
        (fun form => (form.sanitize [("label", .string "x")]).value)
          = .ok [("label", .string "note=?;types=string;rules=2;value=x")] := by cbv
    have bare : (readingCompiler.compile (mapFields readingCompiler.dropDead notedFields)).value.map
        (fun form => (form.sanitize [("label", .string "x")]).value)
          = .ok [("label", .string "note=?;types=string;rules=1;value=x")] := by cbv
    have same := unaffected readingCompiler notedFields [("label", .string "x")]
    rw [whole, bare] at same
    simp at same

end Compiler

end Intake
