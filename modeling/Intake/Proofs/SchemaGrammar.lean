import Intake.Proofs.SchemaEntries

/-!
# The grammar of schemas

Which JSON trees are field schemas (`Json.IsField`), and which field schema a tree denotes
(`Json.Denotes`), is said here without the reader, for trees of any depth. The reader accepts the trees of
the grammar and no others, and reads each as what it denotes (`schemas_are_read_by_grammar`).

Both halves are by induction on the tree. One level of a tree is read as the grammar says because one level
of reading is known from the entries of an object (`schemaOfJson?_iff_isGivenBy`), and the parts of the
tree are read as the grammar says by the induction hypothesis.
-/

set_option autoImplicit false

namespace Intake

/-! ## The trees -/

/-- The trees that may stand for a declared type: null, a name or a list of names. -/
def Json.IsType (tree : Json) : Prop :=
  tree = .null ∨ (∃ name, tree = .string name) ∨ ∃ names : List String, tree = .array (names.map .string)

mutual

/-- The trees that are field schemas. -/
inductive Json.IsField : Json → Prop
  /-- A schema. -/
  | single {tree : Json} (schema : tree.IsSchema) : IsField tree
  /-- A list of schemas. -/
  | union {elements : List Json} (schemas : ∀ element ∈ elements, element.IsSchema) :
      IsField (.array elements)

/-- The trees that are schemas. -/
inductive Json.IsSchema : Json → Prop
  /-- An object in which no key of the schema language is repeated, and each has a tree that may stand
  for it. -/
  | object {entries : List (String × Json)}
      (once : ∀ key ∈ Schema.reservedKeys, (entries.map Prod.fst).count key ≤ 1)
      (type : ∀ tree, ("type", tree) ∈ entries → tree.IsType)
      (items : ∀ tree, ("items", tree) ∈ entries → tree ≠ .null → tree.IsField)
      (properties : ∀ tree, ("properties", tree) ∈ entries → tree ≠ .null → tree.IsFields) :
      IsSchema (.object entries)

/-- The trees that are named field schemas. -/
inductive Json.IsFields : Json → Prop
  /-- An object of field schemas. -/
  | object {entries : List (String × Json)} (fields : ∀ entry ∈ entries, entry.2.IsField) :
      IsFields (.object entries)

end

/-! ## What the trees denote -/

mutual

/-- The field schemas that trees denote. -/
inductive Json.Denotes : Json → FieldSchema → Prop
  /-- A schema. -/
  | single {tree : Json} {schema : Schema} (denoted : tree.DenotesSchema schema) :
      Denotes tree (.single schema)
  /-- Alternatives, in the order of the list. -/
  | union {elements : List Json} {schemas : List Schema}
      (denoted : List.Forall₂ Json.DenotesSchema elements schemas) :
      Denotes (.array elements) (.union schemas)

/-- The schemas that trees denote: each part is what is given under its key, and the other keys are those
of rules. -/
inductive Json.DenotesSchema : Json → Schema → Prop
  /-- An object. -/
  | object {entries : List (String × Json)} {schema : Schema}
      (once : ∀ key ∈ Schema.reservedKeys, (entries.map Prod.fst).count key ≤ 1)
      (type : Option.Rel Json.DenotesType (Json.given? entries "type") schema.type)
      (default : schema.default = (Json.given? entries "default").map Value.ofJson)
      (items : Option.Rel Json.Denotes (Json.given? entries "items") schema.items)
      (properties : Option.Rel Json.DenotesFields (Json.given? entries "properties") schema.properties)
      (rules : schema.rules.Collects entries) :
      DenotesSchema (.object entries) schema

/-- The named field schemas that trees denote. -/
inductive Json.DenotesFields : Json → Properties → Prop
  /-- An object: all its entries, in order. -/
  | object {entries : List (String × Json)} {fields : Properties}
      (denoted : List.Forall₂ Json.DenotesNamed entries fields) : DenotesFields (.object entries) fields

/-- The named field schemas that entries denote. -/
inductive Json.DenotesNamed : String × Json → String × FieldSchema → Prop
  /-- The name is the key. -/
  | entry {name : String} {tree : Json} {field : FieldSchema} (denoted : tree.Denotes field) :
      DenotesNamed (name, tree) (name, field)

end

variable {entries : List (String × Json)} {key : String} {tree : Json}

/-! ## Which trees are read -/

/-- A tree is a field if it is a schema or an array of schemas. -/
theorem Json.isField_iff : tree.IsField ↔
    tree.IsSchema ∨ ∃ elements, tree = .array elements ∧ ∀ element ∈ elements, element.IsSchema := by
  constructor
  · rintro (schema | schemas)
    · exact Or.inl schema
    · exact Or.inr ⟨_, rfl, schemas⟩
  · rintro (schema | ⟨elements, rfl, schemas⟩)
    · exact .single schema
    · exact .union schemas

/-- A tree is a list of fields if it is an object of fields. -/
theorem Json.isFields_iff : tree.IsFields ↔
    ∃ entries, tree = .object entries ∧ ∀ entry ∈ entries, entry.2.IsField := by
  constructor
  · rintro ⟨fields⟩
    exact ⟨_, rfl, fields⟩
  · rintro ⟨entries, rfl, fields⟩
    exact .object fields

/-- An optional part can be read from null and from whatever the part can be read from. -/
theorem exists_rel_nonNull?_iff {α : Type} {reads : Json → α → Prop} :
    (∃ option, Option.Rel reads tree.nonNull? option) ↔ (tree ≠ .null → ∃ a, reads tree a) := by
  simp only [rel_nonNull?_iff]
  by_cases null : tree = .null <;> simp [null]

/-- A tree is a type if it is null or denotes one. -/
theorem Json.isType_iff : tree.IsType ↔ (tree ≠ .null → ∃ type, tree.DenotesType type) := by
  constructor
  · rintro (rfl | ⟨name, rfl⟩ | ⟨names, rfl⟩) nonNull
    · exact absurd rfl nonNull
    · exact ⟨_, .one name⟩
    · exact ⟨_, .union names⟩
  · intro typed
    by_cases null : tree = .null
    · exact Or.inl null
    · obtain ⟨type, denoted⟩ := typed null
      cases denoted with
      | one name => exact Or.inr (Or.inl ⟨name, rfl⟩)
      | union names => exact Or.inr (Or.inr ⟨names, rfl⟩)

/-- An entry can be read if the tree may stand for what its key says. -/
theorem exists_entrySays_iff : (∃ part, EntrySays key tree part) ↔
    (key = "type" → tree.IsType) ∧
      (key = "items" → tree ≠ .null → ∃ field, FieldSchema.IsReadFrom tree field) ∧
      (key = "properties" → tree ≠ .null → ∃ fields, Properties.IsReadFrom tree fields) := by
  simp only [Json.isType_iff, ← exists_rel_nonNull?_iff]
  constructor
  · rintro ⟨_, said⟩
    cases said with
    | type read => exact ⟨fun _ => ⟨_, read⟩, by simp, by simp⟩
    | default tree => simp
    | items read => exact ⟨by simp, fun _ => ⟨_, read⟩, by simp⟩
    | properties read => exact ⟨by simp, by simp, fun _ => ⟨_, read⟩⟩
    | rule unreserved tree =>
      simp only [Schema.reservedKeys, List.mem_cons, List.not_mem_nil, or_false, not_or] at unreserved
      simp [unreserved]
  · rintro ⟨type, items, properties⟩
    by_cases reserved : key ∈ Schema.reservedKeys
    · simp only [Schema.reservedKeys, List.mem_cons, List.not_mem_nil, or_false] at reserved
      rcases reserved with rfl | rfl | rfl | rfl
      · obtain ⟨_, read⟩ := type rfl
        exact ⟨_, .type read⟩
      · exact ⟨_, .default tree⟩
      · obtain ⟨_, read⟩ := items rfl
        exact ⟨_, .items read⟩
      · obtain ⟨_, read⟩ := properties rfl
        exact ⟨_, .properties read⟩
    · exact ⟨_, .rule reserved tree⟩

/-- An object is read as a schema if it repeats no key of the schema language and each of its entries can be
read. -/
theorem exists_schemaOfJson?_iff : (∃ schema, schemaOfJson? tree = some schema) ↔
    ∃ entries, tree = .object entries ∧
      (∀ key ∈ Schema.reservedKeys, (entries.map Prod.fst).count key ≤ 1) ∧
      ∀ entry ∈ entries, ∃ part, EntrySays entry.1 entry.2 part := by
  simp only [schemaOfJson?_eq_some_iff, ← exists_forall₂_iff, ← reservedOnce_iff, ← entryPart?_eq_some_iff]
  constructor
  · rintro ⟨_, entries, parts, rfl, once, parts_ok, -⟩
    exact ⟨entries, rfl, once, parts, parts_ok⟩
  · rintro ⟨entries, rfl, once, parts, parts_ok⟩
    exact ⟨_, entries, parts, rfl, once, parts_ok, rfl⟩

/-- A field is read from a tree that is read as a schema, and from an array of such trees. -/
theorem FieldSchema.exists_ofJson?_iff : (∃ field, FieldSchema.ofJson? tree = some field) ↔
    (∃ schema, schemaOfJson? tree = some schema) ∨ ∃ elements, tree = .array elements ∧
      ∀ element ∈ elements, ∃ schema, schemaOfJson? element = some schema := by
  simp only [FieldSchema.ofJson?_eq_some_iff, ← exists_forall₂_iff]
  constructor
  · rintro ⟨_, ⟨schema, rfl, schema_ok⟩ | ⟨elements, schemas, rfl, rfl, schemas_ok⟩⟩
    · exact Or.inl ⟨schema, schema_ok⟩
    · exact Or.inr ⟨elements, rfl, schemas, schemas_ok⟩
  · rintro (⟨schema, schema_ok⟩ | ⟨elements, rfl, schemas, schemas_ok⟩)
    · exact ⟨_, Or.inl ⟨schema, rfl, schema_ok⟩⟩
    · exact ⟨_, Or.inr ⟨elements, schemas, rfl, rfl, schemas_ok⟩⟩

/-- Fields are read from an object, one from each entry and in the same order. -/
theorem Properties.isReadFrom_iff {fields : Properties} : Properties.IsReadFrom tree fields ↔
    ∃ entries, tree = .object entries ∧ List.Forall₂ (fun entry declared => entry.1 = declared.1 ∧
      FieldSchema.ofJson? entry.2 = some declared.2) entries fields := by
  simp only [← fieldsOfEntries?_eq_some_iff]
  cases tree <;> simp [Properties.IsReadFrom, propertiesOfJson?]

/-- Fields are read from an object if one is read from each entry. -/
theorem Properties.exists_isReadFrom_iff : (∃ fields, Properties.IsReadFrom tree fields) ↔
    ∃ entries, tree = .object entries ∧
      ∀ entry ∈ entries, ∃ field, FieldSchema.ofJson? entry.2 = some field := by
  have entry_iff (entry : String × Json) : (∃ field, FieldSchema.ofJson? entry.2 = some field) ↔
      ∃ declared : String × FieldSchema, entry.1 = declared.1 ∧
        FieldSchema.ofJson? entry.2 = some declared.2 := by
    simp [Prod.exists]
  simp only [Properties.isReadFrom_iff, entry_iff, ← exists_forall₂_iff]
  constructor
  · rintro ⟨fields, entries, rfl, fields_ok⟩
    exact ⟨entries, rfl, fields, fields_ok⟩
  · rintro ⟨entries, rfl, fields, fields_ok⟩
    exact ⟨fields, entries, rfl, fields_ok⟩

/-- Which trees are read. -/
structure Json.IsAccepted (tree : Json) : Prop where
  /-- Field schemas are read from the trees that are field schemas. -/
  field : (∃ field, FieldSchema.ofJson? tree = some field) ↔ tree.IsField
  /-- Schemas are read from the trees that are schemas. -/
  schema : (∃ schema, schemaOfJson? tree = some schema) ↔ tree.IsSchema
  /-- Named field schemas are read from the trees that are named field schemas. -/
  fields : (∃ fields, Properties.IsReadFrom tree fields) ↔ tree.IsFields

/-- **The reader accepts the trees of the grammar**: by induction on the tree. -/
theorem Json.isAccepted (tree : Json) : tree.IsAccepted := by
  induction tree using Json.induction with
  | step tree ih =>
    have schema : (∃ schema, schemaOfJson? tree = some schema) ↔ tree.IsSchema := by
      rw [exists_schemaOfJson?_iff]
      constructor
      · rintro ⟨entries, rfl, once, each⟩
        refine .object once ?_ ?_ ?_
        · intro tree member
          exact (exists_entrySays_iff.mp (each _ member)).1 rfl
        · intro tree member nonNull
          have readable := (exists_entrySays_iff.mp (each _ member)).2.1 rfl nonNull
          exact (ih tree (.entry member)).field.mp readable
        · intro tree member nonNull
          have readable := (exists_entrySays_iff.mp (each _ member)).2.2 rfl nonNull
          exact (ih tree (.entry member)).fields.mp readable
      · rintro @⟨entries, once, type, items, properties⟩
        refine ⟨entries, rfl, once, ?_⟩
        rintro ⟨key, tree⟩ member
        rw [exists_entrySays_iff]
        refine ⟨?_, ?_, ?_⟩
        · rintro rfl
          exact type tree member
        · rintro rfl nonNull
          exact (ih tree (.entry member)).field.mpr (items tree member nonNull)
        · rintro rfl nonNull
          exact (ih tree (.entry member)).fields.mpr (properties tree member nonNull)
    refine ⟨?_, schema, ?_⟩
    · rw [FieldSchema.exists_ofJson?_iff, Json.isField_iff, schema]
      refine or_congr_right (exists_congr fun elements => and_congr_right ?_)
      rintro rfl
      exact forall₂_congr fun element member => (ih element (.element member)).schema
    · rw [Properties.exists_isReadFrom_iff, Json.isFields_iff]
      refine exists_congr fun entries => and_congr_right ?_
      rintro rfl
      exact forall₂_congr fun entry member => (ih entry.2 (.entry member)).field

/-! ## What they are read as -/

section Congruence

variable {α β : Type} {r r' : α → β → Prop}

/-- Relations that agree on the value of an option relate it to the same options. -/
theorem rel_congr {a : Option α} {b : Option β}
    (same : ∀ value, a = some value → ∀ b, r value b ↔ r' value b) :
    Option.Rel r a b ↔ Option.Rel r' a b := by
  cases a <;> cases b <;> simp_all

/-- Relations that agree on the elements of a list relate it to the same lists. -/
theorem forall₂_congr_of_mem {as : List α} {bs : List β} (same : ∀ a ∈ as, ∀ b, r a b ↔ r' a b) :
    List.Forall₂ r as bs ↔ List.Forall₂ r' as bs := by
  constructor
  · intro related
    exact ((List.forall₂_and_left as bs).mpr ⟨same, related⟩).imp fun a b h => (h.1 b).mp h.2
  · intro related
    exact ((List.forall₂_and_left as bs).mpr ⟨same, related⟩).imp fun a b h => (h.1 b).mpr h.2

/-- What entries give depends on how their own trees are read. -/
theorem Schema.isGivenBy_congr {reads reads' : Json → FieldSchema → Prop}
    {readsFields readsFields' : Json → Properties → Prop} {schema : Schema}
    (field : ∀ entry ∈ entries, ∀ field, reads entry.2 field ↔ reads' entry.2 field)
    (fields : ∀ entry ∈ entries, ∀ fields, readsFields entry.2 fields ↔ readsFields' entry.2 fields) :
    schema.IsGivenBy reads readsFields entries ↔ schema.IsGivenBy reads' readsFields' entries := by
  have items : Option.Rel reads (Json.given? entries "items") schema.items ↔
      Option.Rel reads' (Json.given? entries "items") schema.items :=
    rel_congr fun _ found => field _ (Json.mem_of_given? found)
  have properties : Option.Rel readsFields (Json.given? entries "properties") schema.properties ↔
      Option.Rel readsFields' (Json.given? entries "properties") schema.properties :=
    rel_congr fun _ found => fields _ (Json.mem_of_given? found)
  constructor
  · rintro ⟨type, default, items_ok, properties_ok, rules⟩
    exact ⟨type, default, items.mp items_ok, properties.mp properties_ok, rules⟩
  · rintro ⟨type, default, items_ok, properties_ok, rules⟩
    exact ⟨type, default, items.mpr items_ok, properties.mpr properties_ok, rules⟩

end Congruence

/-- A tree denotes a field as one schema or as an array of alternatives. -/
theorem Json.denotes_iff {field : FieldSchema} : tree.Denotes field ↔
    (∃ schema, field = .single schema ∧ tree.DenotesSchema schema) ∨
      ∃ elements schemas, tree = .array elements ∧ field = .union schemas ∧
        List.Forall₂ Json.DenotesSchema elements schemas := by
  constructor
  · rintro (denoted | denoted)
    · exact Or.inl ⟨_, rfl, denoted⟩
    · exact Or.inr ⟨_, _, rfl, rfl, denoted⟩
  · rintro (⟨schema, rfl, denoted⟩ | ⟨elements, schemas, rfl, rfl, denoted⟩)
    · exact .single denoted
    · exact .union denoted

/-- A tree denotes a schema by its entries, among which no key of the schema language is repeated. -/
theorem Json.denotesSchema_iff {schema : Schema} : tree.DenotesSchema schema ↔
    ∃ entries, tree = .object entries ∧ reservedOnce entries = true ∧
      schema.IsGivenBy Json.Denotes Json.DenotesFields entries := by
  simp only [reservedOnce_iff]
  constructor
  · rintro ⟨once, type, default, items, properties, rules⟩
    exact ⟨_, rfl, once, type, default, items, properties, rules⟩
  · rintro ⟨entries, rfl, once, type, default, items, properties, rules⟩
    exact .object once type default items properties rules

/-- A tree denotes fields by its entries, in their order. -/
theorem Json.denotesFields_iff {fields : Properties} : tree.DenotesFields fields ↔
    ∃ entries, tree = .object entries ∧ List.Forall₂ (fun entry declared => entry.1 = declared.1 ∧
      entry.2.Denotes declared.2) entries fields := by
  have named : Json.DenotesNamed = fun entry declared =>
      entry.1 = declared.1 ∧ entry.2.Denotes declared.2 := by
    funext entry declared
    apply propext
    constructor
    · rintro ⟨denoted⟩
      exact ⟨rfl, denoted⟩
    · obtain ⟨name, tree⟩ := entry
      rintro ⟨rfl, denoted⟩
      exact .entry denoted
  rw [← named]
  constructor
  · rintro ⟨denoted⟩
    exact ⟨_, rfl, denoted⟩
  · rintro ⟨entries, rfl, denoted⟩
    exact .object denoted

/-- What trees are read as. -/
structure Json.IsRead (tree : Json) : Prop where
  /-- Field schemas. -/
  field : ∀ field, FieldSchema.ofJson? tree = some field ↔ tree.Denotes field
  /-- Schemas. -/
  schema : ∀ schema, schemaOfJson? tree = some schema ↔ tree.DenotesSchema schema
  /-- Named field schemas. -/
  fields : ∀ fields, Properties.IsReadFrom tree fields ↔ tree.DenotesFields fields

/-- **The reader reads a tree as what it denotes**: by induction on the tree. -/
theorem Json.isRead (tree : Json) : tree.IsRead := by
  induction tree using Json.induction with
  | step tree ih =>
    have schema (schema : Schema) : schemaOfJson? tree = some schema ↔ tree.DenotesSchema schema := by
      rw [schemaOfJson?_iff_isGivenBy, Json.denotesSchema_iff]
      refine exists_congr fun entries => and_congr_right ?_
      rintro rfl
      refine and_congr_right fun _ => Schema.isGivenBy_congr ?_ ?_
      · exact fun entry member => (ih entry.2 (.entry member)).field
      · exact fun entry member => (ih entry.2 (.entry member)).fields
    refine ⟨?_, schema, ?_⟩
    · intro field
      rw [FieldSchema.ofJson?_eq_some_iff, Json.denotes_iff]
      simp only [schema]
      refine or_congr_right (exists_congr fun elements => exists_congr fun schemas => and_congr_right ?_)
      rintro rfl
      refine and_congr_right fun _ => forall₂_congr_of_mem ?_
      exact fun element member => (ih element (.element member)).schema
    · intro fields
      rw [Properties.isReadFrom_iff, Json.denotesFields_iff]
      refine exists_congr fun entries => and_congr_right ?_
      rintro rfl
      apply forall₂_congr_of_mem
      intro entry member declared
      exact and_congr_right fun _ => (ih entry.2 (.entry member)).field declared.2

/-- **The reader accepts exactly its grammar.** A JSON tree is read as a field schema exactly if it is one by
the grammar, and it is read as the field schema that it denotes. -/
theorem schemas_are_read_by_grammar (tree : Json) :
    ((∃ field, FieldSchema.ofJson? tree = some field) ↔ tree.IsField) ∧
      ∀ field, FieldSchema.ofJson? tree = some field ↔ tree.Denotes field :=
  ⟨tree.isAccepted.field, tree.isRead.field⟩

end Intake
