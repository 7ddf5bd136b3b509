import Intake.Proofs.Filters

/-!
# Changes that compiling does not see

A factory is handed the whole schema around its parameter. Where the factories of a compiler do not look at
it (`Compiler.IsBlind`), as the built-in ones do not, a schema compiles by its type names, its default, its
nested fields and its live rules, and by its element schema if it has arrays. A change of schemas that keeps
these (`Compiler.Unseen`) may be made everywhere, and the fields of a record fail with the same error or
compile to the very same plans (`Compiler.compileFields_map`, by recursion on the schema).
-/

set_option autoImplicit false

namespace Intake

/-! ## Changed schemas -/

mutual

/-- Changes all schemas of a field, at every depth, from the inside to the outside. -/
def FieldSchema.mapSchemas (f : Schema → Schema) : FieldSchema → FieldSchema
  | .single schema => .single (mapSchema f schema)
  | .union schemas => .union (mapAlternatives f schemas)

/-- Changes a schema and all schemas in it. -/
def mapSchema (f : Schema → Schema) : SchemaOver FieldSchema → SchemaOver FieldSchema
  | ⟨type, default, items, properties, rules⟩ =>
    f ⟨type, default, mapItems f items, mapProperties f properties, rules⟩

/-- Changes the alternatives of a field. -/
def mapAlternatives (f : Schema → Schema) :
    List (SchemaOver FieldSchema) → List (SchemaOver FieldSchema)
  | [] => []
  | schema :: rest => mapSchema f schema :: mapAlternatives f rest

/-- Changes an element schema, if there is one. -/
def mapItems (f : Schema → Schema) : Option FieldSchema → Option FieldSchema
  | none => none
  | some field => some (field.mapSchemas f)

/-- Changes nested fields, if there are any. -/
def mapProperties (f : Schema → Schema) :
    Option (List (String × FieldSchema)) → Option (List (String × FieldSchema))
  | none => none
  | some fields => some (mapFields f fields)

/-- Changes all schemas of named fields. -/
def mapFields (f : Schema → Schema) :
    List (String × FieldSchema) → List (String × FieldSchema)
  | [] => []
  | (name, field) :: rest => (name, field.mapSchemas f) :: mapFields f rest

end

/-! ## Blind factories -/

/-- A factory that does not look at the schema around a parameter. -/
def RuleFactory.IsBlind (factory : RuleFactory) : Prop :=
  ∀ (param : Value) (name : String) (schema₁ schema₂ : Schema),
    (factory param name schema₁).value = (factory param name schema₂).value

/-- The built-in factories do not look at the schema. -/
theorem RuleFactory.builtin_isBlind [Engines] (keyword : Keyword) : (builtin keyword).IsBlind :=
  fun _ _ _ _ => rfl

namespace Compiler

variable {compiler : Compiler} {schema : Schema}

/-- The factories of a compiler look at their parameters only, not at the schemas around them. -/
def IsBlind (compiler : Compiler) : Prop :=
  ∀ (key : String) (factory : RuleFactory), compiler.rules.get? key = some factory → factory.IsBlind

/-- The compiler with the built-in rules is blind. -/
theorem isBlind_builtin [Engines] : builtin.IsBlind := by
  intro key factory registered
  obtain ⟨keyword, -, rfl⟩ := RuleRegistry.exists_keyword registered
  exact RuleFactory.builtin_isBlind keyword

/-! ## Alike schemas -/

/-- Blind factories make the same rules in two schemas with the same live rules. -/
theorem compileRules_congr (blind : compiler.IsBlind) (schema₁ schema₂ : Schema)
    {entries others : List (String × Value)}
    (lives : compiler.liveRules entries = compiler.liveRules others) :
    (compileRules compiler schema₁ entries).value = (compileRules compiler schema₂ others).value := by
  rw [compileRules_value, compileRules_value, lives]
  have known : ∀ live ∈ compiler.liveRules others, live.factory.IsBlind := by
    intro live member
    exact blind live.key live.factory (mem_liveRules_iff.mp member).2.2
  generalize compiler.liveRules others = lives at known
  induction lives with
  | nil => rfl
  | cons live rest ih =>
    have here := known live List.mem_cons_self live.param live.key schema₁ schema₂
    have later := ih fun other member => known other (List.mem_cons_of_mem _ member)
    rw [makeRules, makeRules, here, later]

/-- Two schemas with the same rules give the same alternative for a type name, if their element schemas
compile alike where they count. -/
theorem compileAlternative_congr {other : Schema} {element element' : Compiled (Option FieldPlan)}
    {typeName : Option String}
    (rules : (compileRules compiler schema schema.rules.entries).value
      = (compileRules compiler other other.rules.entries).value)
    (elements : typeName = some "array" → element.value = element'.value) (nested : Option FormPlan) :
    (compileAlternative compiler schema nested element typeName).value
      = (compileAlternative compiler other nested element' typeName).value := by
  have shapes : (shapeFor nested element typeName).value = (shapeFor nested element' typeName).value := by
    unfold shapeFor
    split
    · rfl
    · split
      · rename_i array
        rw [Reported.value_map, Reported.value_map, elements array]
      · rfl
  unfold compileAlternative
  simp only [Reported.value_onSuccess, Reported.value_andThen, Reported.value_map, shapes, rules]

/-- The alternatives of a row of type names are compiled one after the other. -/
theorem compileAlternatives_cons (schema : Schema) (nested : Option FormPlan)
    (element : Compiled (Option FieldPlan)) (typeName : Option String)
    (rest : List (Option String)) :
    (compileAlternatives compiler schema nested element (typeName :: rest)).value
      = (compileAlternative compiler schema nested element typeName).value.bind fun alternative =>
        (compileAlternatives compiler schema nested element rest).value.map (alternative :: ·) := by
  rw [compileAlternatives, Reported.value_onSuccess]
  rfl

/-- Two schemas with the same rules give the same alternatives for a row of type names, if their element
schemas compile alike where they count. -/
theorem compileAlternatives_congr {other : Schema} {element element' : Compiled (Option FieldPlan)}
    {typeNames : List (Option String)}
    (rules : (compileRules compiler schema schema.rules.entries).value
      = (compileRules compiler other other.rules.entries).value)
    (elements : some "array" ∈ typeNames → element.value = element'.value) (nested : Option FormPlan) :
    (compileAlternatives compiler schema nested element typeNames).value
      = (compileAlternatives compiler other nested element' typeNames).value := by
  induction typeNames with
  | nil => rfl
  | cons typeName rest ih =>
    have first : typeName = some "array" → element.value = element'.value := by
      rintro rfl
      exact elements List.mem_cons_self
    have later := ih fun member => elements (List.mem_cons_of_mem _ member)
    rw [compileAlternatives_cons, compileAlternatives_cons, compileAlternative_congr rules first, later]

/-- What a schema compiles to, by its parts: nested fields come first, and then one alternative for
each type name. -/
theorem compileSchema_value (schema : Schema) :
    (compileSchema compiler schema).value
      = (compileProperties compiler schema.properties).value.bind fun nested =>
        (compileAlternatives compiler schema nested (compileItems compiler schema.items)
          (alternativeTypes schema)).value := by
  obtain ⟨type, default, items, properties, rules⟩ := schema
  rw [compileSchema, Reported.value_onSuccess]

/-- The alternatives of a field are compiled one after the other. -/
theorem compileSchemas_cons (schema : Schema) (rest : List Schema) :
    (compileSchemas compiler (schema :: rest)).value
      = (compileSchema compiler schema).value.bind fun alternatives =>
        (compileSchemas compiler rest).value.map (alternatives ++ ·) := by
  rw [compileSchemas, Reported.value_onSuccess]
  rfl

/-- A schema with a type name among its alternatives declares it. -/
theorem mem_typeNames_of_mem_alternativeTypes {name : String}
    (member : some name ∈ alternativeTypes schema) : name ∈ schema.typeNames := by
  unfold alternativeTypes at member
  split at member <;> simp_all

/-! ## Unseen changes -/

/-- A change of schemas that keeps what schemas compile by. -/
structure Unseen (compiler : Compiler) (f : Schema → Schema) : Prop where
  /-- It keeps the declared type. -/
  type (schema : Schema) : (f schema).type = schema.type
  /-- It keeps the default. -/
  default (schema : Schema) : (f schema).default = schema.default
  /-- It keeps the nested fields. -/
  properties (schema : Schema) : (f schema).properties = schema.properties
  /-- It keeps the live rules. -/
  rules (schema : Schema) :
    compiler.liveRules (f schema).rules.entries = compiler.liveRules schema.rules.entries
  /-- It keeps the element schema of arrays. -/
  items (schema : Schema) : "array" ∈ schema.typeNames → (f schema).items = schema.items

variable {f : Schema → Schema}

/-- A changed schema stands for the same type names. -/
theorem Unseen.alternativeTypes_eq (unseen : compiler.Unseen f) (schema : Schema) :
    alternativeTypes (f schema) = alternativeTypes schema := by
  unfold alternativeTypes Schema.typeNames
  rw [unseen.type schema]

/-- Changed alternatives have the same default. -/
theorem Unseen.findSome?_default (unseen : compiler.Unseen f) (schemas : List Schema) :
    (mapAlternatives f schemas).findSome? (fun schema => schema.default)
      = schemas.findSome? fun schema => schema.default := by
  induction schemas with
  | nil => rfl
  | cons schema rest ih =>
    have same : (mapSchema f schema).default = schema.default := by
      cases schema
      exact unseen.default _
    rw [mapAlternatives, List.findSome?_cons, List.findSome?_cons, ih, same]

/-- A changed field makes the same plan of its alternatives. -/
theorem Unseen.fieldPlan_map (unseen : compiler.Unseen f) (field : FieldSchema) :
    fieldPlan (field.mapSchemas f) = fieldPlan field := by
  have default : (field.mapSchemas f).alternatives.findSome? (fun schema => schema.default)
      = field.alternatives.findSome? fun schema => schema.default := by
    cases field with
    | single schema => exact unseen.findSome?_default [schema]
    | union schemas => exact unseen.findSome?_default schemas
  funext alternatives
  unfold fieldPlan
  rw [default]

mutual

/-- **A changed field compiles as before**: by recursion on the schema, as it is compiled. -/
theorem compileField_map (blind : compiler.IsBlind) (unseen : compiler.Unseen f) :
    (field : FieldSchema) →
    (compileField compiler (field.mapSchemas f)).value = (compileField compiler field).value
  | .single schema => by
    have plan := unseen.fieldPlan_map (.single schema)
    rw [FieldSchema.mapSchemas] at plan ⊢
    rw [compileField, compileField, Reported.value_map, Reported.value_map, plan,
      compileSchema_map blind unseen schema]
  | .union schemas => by
    have plan := unseen.fieldPlan_map (.union schemas)
    rw [FieldSchema.mapSchemas] at plan ⊢
    rw [compileField, compileField, Reported.value_map, Reported.value_map, plan,
      compileSchemas_map blind unseen schemas]

/-- Changed alternatives compile as before. -/
theorem compileSchemas_map (blind : compiler.IsBlind) (unseen : compiler.Unseen f) :
    (schemas : List (SchemaOver FieldSchema)) →
    (compileSchemas compiler (mapAlternatives f schemas)).value = (compileSchemas compiler schemas).value
  | [] => rfl
  | schema :: rest => by
    rw [mapAlternatives, compileSchemas_cons, compileSchemas_cons, compileSchema_map blind unseen schema,
      compileSchemas_map blind unseen rest]

/-- A changed schema compiles as before. -/
theorem compileSchema_map (blind : compiler.IsBlind) (unseen : compiler.Unseen f) :
    (schema : SchemaOver FieldSchema) →
    (compileSchema compiler (mapSchema f schema)).value = (compileSchema compiler schema).value
  | ⟨type, default, items, properties, rules⟩ => by
    let here : Schema := ⟨type, default, items, properties, rules⟩
    -- The parts are changed first, and then the schema around the changed parts.
    let around : Schema := ⟨type, default, mapItems f items, mapProperties f properties, rules⟩
    have nested : (compileProperties compiler (f around).properties).value
        = (compileProperties compiler properties).value := by
      rw [unseen.properties around]
      exact compileProperties_map blind unseen properties
    have types : alternativeTypes (f around) = alternativeTypes here := unseen.alternativeTypes_eq around
    have own := compileRules_congr blind (f around) here (unseen.rules around)
    have elements (array : some "array" ∈ alternativeTypes here) :
        (compileItems compiler (f around).items).value = (compileItems compiler items).value := by
      have declared : "array" ∈ around.typeNames := mem_typeNames_of_mem_alternativeTypes array
      rw [unseen.items around declared]
      exact compileItems_map blind unseen items
    rw [mapSchema, compileSchema_value, compileSchema_value, types]
    refine congrArg₂ Except.bind nested ?_
    funext form
    exact compileAlternatives_congr own elements form

/-- A changed element schema compiles as before. -/
theorem compileItems_map (blind : compiler.IsBlind) (unseen : compiler.Unseen f) :
    (items : Option FieldSchema) →
    (compileItems compiler (mapItems f items)).value = (compileItems compiler items).value
  | none => rfl
  | some field => by
    rw [mapItems, compileItems, compileItems, Reported.value_map, Reported.value_map,
      compileField_map blind unseen field]

/-- Changed nested fields compile as before. -/
theorem compileProperties_map (blind : compiler.IsBlind) (unseen : compiler.Unseen f) :
    (properties : Option (List (String × FieldSchema))) →
    (compileProperties compiler (mapProperties f properties)).value
      = (compileProperties compiler properties).value
  | none => rfl
  | some fields => by
    rw [mapProperties, compileProperties, compileProperties, Reported.value_map, Reported.value_map,
      Reported.value_onSuccess, Reported.value_onSuccess, compileFields_map blind unseen fields]

/-- Changed fields compile as before. -/
theorem compileFields_map (blind : compiler.IsBlind) (unseen : compiler.Unseen f) :
    (fields : List (String × FieldSchema)) →
    (compileFields compiler (mapFields f fields)).value = (compileFields compiler fields).value
  | [] => rfl
  | (name, field) :: rest => by
    have others := compileFields_map blind unseen rest
    rw [mapFields, compileFields, compileFields, Reported.value_onSuccess, Reported.value_onSuccess,
      compileField_map blind unseen field]
    simp only [Reported.value_map, others]

end

/-- **The fields of a record compile as before** if their schemas are changed unseen. -/
theorem compile_map (blind : compiler.IsBlind) (unseen : compiler.Unseen f) (fields : Properties) :
    (compiler.compile (mapFields f fields)).value = (compiler.compile fields).value := by
  rw [compile, compile, Reported.value_onSuccess, Reported.value_onSuccess,
    compileFields_map blind unseen fields]

end Compiler

end Intake
