import Intake.Plan.Basic

/-!
# Compiling schemas

Schemas compile to plans with the help of a registry of types and one of rules. Compiling fails at the
first rule parameter that its factory refuses: fields in order; of a field its alternatives in order;
of a schema first the fields nested in it and then, for each of its type names, the schema of the
elements, where the type is `array`, and the rules in the order of their keys.
-/

set_option autoImplicit false

namespace Intake

/-- The registries that schemas are compiled with. -/
structure Compiler where
  /-- The types that schemas may name. -/
  types : TypeRegistry := TypeRegistry.builtin
  /-- The rules that schemas may name. -/
  rules : RuleRegistry := RuleRegistry.builtin

namespace Compiler

/-- The compiler with the built-in types and rules. -/
def builtin [Engines] : Compiler := { rules := RuleRegistry.builtin }

/-- What compiling gives: a result or a schema error, and the events on the way. -/
abbrev Compiled (α : Type) := Reported (Except SchemaError α)

/-- Sets the coercion of a type name. -/
def withType (compiler : Compiler) (name : String) (coercion : Coercion) : Compiler :=
  { compiler with types := Registry.insert compiler.types name coercion }

/-- Sets the factory of a rule name, unless the name is a key of the schema language. -/
def withRule (compiler : Compiler) (name : String) (factory : RuleFactory) :
    Except SchemaError Compiler :=
  (RuleRegistry.register compiler.rules name factory).map fun rules => { compiler with rules }

/-- The rules of a schema, in the order of their keys. Keys of the schema language are skipped, and so
are keys without a factory. -/
def compileRules (compiler : Compiler) (schema : Schema) :
    List (String × Value) → Compiled (List Rule)
  | [] => Reported.quiet (.ok [])
  | (key, param) :: rest =>
    if Schema.isReserved key then compileRules compiler schema rest
    else match compiler.rules.get? key with
      | none =>
        (Reported.report (.ignoredKey key)).andThen fun _ => compileRules compiler schema rest
      | some factory =>
        (factory param key schema).onSuccess fun rule =>
          (compileRules compiler schema rest).map (Except.map (rule :: ·))

/-- Whether an alternative of the type treats the value as a record with nested fields. -/
def isRecordType (typeName : Option String) : Bool :=
  typeName == none || typeName == some "object"

/-- What happens to the parts of a value, for one type name: nested fields make a record of it where
the type allows, and an element schema counts only for arrays. -/
def shapeFor (nested : Option FormPlan) (element : Compiled (Option FieldPlan))
    (typeName : Option String) : Compiled (Shape FieldPlan) :=
  match nested, isRecordType typeName with
  | some fields, true => Reported.quiet (.ok (.record fields))
  | _, _ =>
    if typeName = some "array" then
      element.map (Except.map fun plan? =>
        match plan? with
        | some plan => .items plan
        | none => .scalar)
    else Reported.quiet (.ok .scalar)

/-- The coercion of an alternative: that of records for records, else that of the type name. -/
def coercionFor (compiler : Compiler) (shape : Shape FieldPlan) (typeName : Option String) :
    Reported (Option Coercion) :=
  match shape, typeName with
  | .record _, _ => Reported.quiet (compiler.types.get? "object")
  | _, none => Reported.quiet none
  | _, some name =>
    match compiler.types.get? name with
    | some coercion => Reported.quiet (some coercion)
    | none => ⟨none, [.unknownType name]⟩

/-- The alternative of a schema for one type name. -/
def compileAlternative (compiler : Compiler) (schema : Schema) (nested : Option FormPlan)
    (element : Compiled (Option FieldPlan)) (typeName : Option String) : Compiled Alternative :=
  (shapeFor nested element typeName).onSuccess fun shape =>
    (coercionFor compiler shape typeName).andThen fun coercion =>
      (compileRules compiler schema schema.rules.entries).map
        (Except.map fun rules => { typeName, coercion, rules, shape })

/-- The alternatives of a schema for several type names. -/
def compileAlternatives (compiler : Compiler) (schema : Schema) (nested : Option FormPlan)
    (element : Compiled (Option FieldPlan)) : List (Option String) → Compiled (List Alternative)
  | [] => Reported.quiet (.ok [])
  | typeName :: rest =>
    (compileAlternative compiler schema nested element typeName).onSuccess fun alternative =>
      (compileAlternatives compiler schema nested element rest).map
        (Except.map (alternative :: ·))

/-- The type names of a schema, one alternative for each; an untyped schema has one alternative. -/
def alternativeTypes (schema : Schema) : List (Option String) :=
  match schema.typeNames with
  | [] => [none]
  | names => names.map some

/-- The plan of a field with the given alternatives, at least one. -/
def fieldPlan (field : FieldSchema) (alternatives : List Alternative) : FieldPlan :=
  .mk (if alternatives.isEmpty then [Alternative.passthrough] else alternatives)
    (field.alternatives.findSome? fun schema => schema.default)

/-- The plans of a record once its fields are compiled. -/
def finishForm (form : FormPlan) : Compiled FormPlan :=
  ⟨.ok form, [.formCompiled form.length]⟩

mutual

/-- Compiles a field. -/
def compileField (compiler : Compiler) : FieldSchema → Compiled FieldPlan
  | .single schema =>
    (compileSchema compiler schema).map (Except.map (fieldPlan (.single schema)))
  | .union schemas =>
    (compileSchemas compiler schemas).map (Except.map (fieldPlan (.union schemas)))

/-- Compiles the alternatives of a field. -/
def compileSchemas (compiler : Compiler) :
    List (SchemaOver FieldSchema) → Compiled (List Alternative)
  | [] => Reported.quiet (.ok [])
  | schema :: rest =>
    (compileSchema compiler schema).onSuccess fun alternatives =>
      (compileSchemas compiler rest).map (Except.map (alternatives ++ ·))

/-- Compiles one schema to its alternatives. -/
def compileSchema (compiler : Compiler) : SchemaOver FieldSchema → Compiled (List Alternative)
  | ⟨type, default, items, properties, rules⟩ =>
    let schema : Schema := ⟨type, default, items, properties, rules⟩
    let element := compileItems compiler items
    (compileProperties compiler properties).onSuccess fun nested =>
      compileAlternatives compiler schema nested element (alternativeTypes schema)

/-- Compiles the schema of elements, if there is one. -/
def compileItems (compiler : Compiler) : Option FieldSchema → Compiled (Option FieldPlan)
  | none => Reported.quiet (.ok none)
  | some field => (compileField compiler field).map (Except.map some)

/-- Compiles nested fields, if there are any. -/
def compileProperties (compiler : Compiler) :
    Option (List (String × FieldSchema)) → Compiled (Option FormPlan)
  | none => Reported.quiet (.ok none)
  | some fields =>
    ((compileFields compiler fields).onSuccess finishForm).map (Except.map some)

/-- Compiles named fields. -/
def compileFields (compiler : Compiler) : List (String × FieldSchema) → Compiled FormPlan
  | [] => Reported.quiet (.ok [])
  | (name, field) :: rest =>
    (compileField compiler field).onSuccess fun plan =>
      (compileFields compiler rest).map (Except.map ((name, plan) :: ·))

end

/-- Compiles the fields of a record. -/
def compile (compiler : Compiler) (fields : Properties) : Compiled FormPlan :=
  (compileFields compiler fields).onSuccess finishForm

end Compiler

end Intake
