import Intake.Proofs.SchemaParts

/-!
# Reading schemas

Schemas are read back from what has been written for them (`FieldSchema.ofJson?_toJson`) if JSON can say
all that stands in them, at every depth (`FieldSchema.Every`, `Schema.IsRepresentable`); and whatever has
been read is of this kind (`FieldSchema.every_of_ofJson?`). The one is by induction on the schema, the other
by induction on the tree.
-/

set_option autoImplicit false

namespace Intake

/-! ## What holds everywhere in a schema -/

/-- A property holds of every schema at every depth of a field schema. -/
def FieldSchema.Every (p : Schema → Prop) (field : FieldSchema) : Prop :=
  ∀ inner : FieldSchema, inner.Within field → ∀ schema ∈ inner.alternatives, p schema

/-- A property holds of every schema at every depth of named fields. -/
def Properties.Every (p : Schema → Prop) (fields : Properties) : Prop :=
  ∀ declared ∈ fields, declared.2.Every p

/-- A property holds of a schema and of every schema at every depth of it. -/
structure Schema.Every (p : Schema → Prop) (schema : Schema) : Prop where
  /-- The property holds of the schema. -/
  here : p schema
  /-- It holds everywhere in the element schema. -/
  items : ∀ element, schema.items = some element → element.Every p
  /-- It holds everywhere in the nested fields. -/
  properties : ∀ fields : Properties, schema.properties = some fields → Properties.Every p fields

/-- A property holds of every schema in a field if it does in each of its alternatives. -/
theorem FieldSchema.every_iff {p : Schema → Prop} {field : FieldSchema} :
    field.Every p ↔ ∀ schema ∈ field.alternatives, Schema.Every p schema := by
  constructor
  · intro all schema alternative
    refine ⟨all field .refl schema alternative, ?_, ?_⟩
    · intro element items inner within
      exact all inner (within.tail (.element alternative items))
    · intro fields properties declared member inner within
      exact all inner (within.tail (.nested alternative properties member))
  · intro each inner within schema member
    rcases Relation.ReflTransGen.cases_tail within with same | ⟨part, deeper, below⟩
    · rw [← same] at member
      exact (each schema member).here
    · cases below with
      | element alternative items => exact (each _ alternative).items _ items inner deeper schema member
      | nested alternative properties listed =>
        exact (each _ alternative).properties _ properties _ listed inner deeper schema member

/-! ## Lists of schemas and fields -/

/-- Alternatives are written one by one. -/
theorem schemasToJson_eq_map (schemas : List Schema) :
    schemasToJson schemas = schemas.map schemaToJson := by
  induction schemas with
  | nil => rfl
  | cons schema rest ih => rw [schemasToJson, ih, List.map_cons]

/-- Fields are written one by one, under their names. -/
theorem fieldsToJson_eq_map (fields : Properties) :
    fieldsToJson fields = fields.map fun declared => (declared.1, declared.2.toJson) := by
  induction fields with
  | nil => rfl
  | cons declared rest ih => rw [fieldsToJson, ih, List.map_cons]

/-- Alternatives are read one by one. -/
theorem schemasOfElements?_eq_some_iff {elements : List Json} {schemas : List Schema} :
    schemasOfElements? elements = some schemas
      ↔ List.Forall₂ (fun tree schema => schemaOfJson? tree = some schema) elements schemas := by
  induction elements generalizing schemas with
  | nil => simp [schemasOfElements?, eq_comm]
  | cons element rest ih =>
    rw [schemasOfElements?, List.forall₂_cons_left_iff]
    simp only [← ih]
    cases schemaOfJson? element <;> cases schemasOfElements? rest <;> simp [eq_comm]

/-- Fields are read one by one, each with its name. -/
theorem fieldsOfEntries?_eq_some_iff {entries : List (String × Json)} {fields : Properties} :
    fieldsOfEntries? entries = some fields
      ↔ List.Forall₂ (fun entry declared => entry.1 = declared.1 ∧
        FieldSchema.ofJson? entry.2 = some declared.2) entries fields := by
  induction entries generalizing fields with
  | nil => simp [fieldsOfEntries?, eq_comm]
  | cons entry rest ih =>
    obtain ⟨name, tree⟩ := entry
    rw [fieldsOfEntries?, List.forall₂_cons_left_iff]
    simp only [← ih]
    cases FieldSchema.ofJson? tree <;> cases fieldsOfEntries? rest <;> simp [eq_comm]

/-- A single schema is read from an object, and alternatives from an array of objects. -/
theorem FieldSchema.ofJson?_eq_some_iff {tree : Json} {field : FieldSchema} :
    FieldSchema.ofJson? tree = some field ↔
      (∃ schema, field = .single schema ∧ schemaOfJson? tree = some schema) ∨
        ∃ elements schemas, tree = .array elements ∧ field = .union schemas ∧
          List.Forall₂ (fun tree schema => schemaOfJson? tree = some schema) elements schemas := by
  simp only [← schemasOfElements?_eq_some_iff]
  cases tree with
  | object entries =>
    have object : FieldSchema.ofJson? (.object entries)
        = (schemaOfJson? (.object entries)).map .single := by
      rw [FieldSchema.ofJson?, schemaOfJson?]
      split <;> simp [Function.comp_def]
    simp [object, eq_comm, and_comm]
  | array elements => simp [FieldSchema.ofJson?, schemaOfJson?, eq_comm, and_comm]
  | _ => simp [FieldSchema.ofJson?, schemaOfJson?]

/-! ## Reading what has been written -/

/-- Fields are read back if each of them is. -/
theorem Properties.ofJson?_toJson_of_fields {fields : Properties}
    (each : ∀ declared ∈ fields, FieldSchema.ofJson? declared.2.toJson = some declared.2) :
    Properties.ofJson? fields.toJson = some fields := by
  have back : fieldsOfEntries? (fieldsToJson fields) = some fields := by
    rw [fieldsOfEntries?_eq_some_iff, fieldsToJson_eq_map, List.forall₂_map_left_iff,
      List.forall₂_same]
    exact fun declared member => ⟨rfl, each declared member⟩
  exact back

/-- **What JSON can say is read back as it was**: by induction on the field schema. -/
theorem FieldSchema.ofJson?_toJson {field : FieldSchema}
    (representable : field.Every Schema.IsRepresentable) (keyed : field.Every Schema.IsKeyed) :
    FieldSchema.ofJson? field.toJson = some field := by
  induction field using FieldSchema.induction with
  | step field ih =>
    rw [every_iff] at representable keyed
    have each : ∀ schema ∈ field.alternatives,
        schemaOfJson? (schemaToJson schema) = some schema := by
      intro schema member
      apply Schema.ofJson?_toJson_of_parts (representable schema member).here (keyed schema member).here
      · intro element items
        exact ih element (.element member items) ((representable schema member).items element items)
          ((keyed schema member).items element items)
      · intro fields properties
        apply Properties.ofJson?_toJson_of_fields
        intro declared listed
        exact ih declared.2 (.nested member properties listed)
          ((representable schema member).properties fields properties declared listed)
          ((keyed schema member).properties fields properties declared listed)
    rw [FieldSchema.ofJson?_eq_some_iff]
    cases field with
    | single schema => exact Or.inl ⟨schema, rfl, each schema List.mem_cons_self⟩
    | union schemas =>
      refine Or.inr ⟨_, schemas, rfl, rfl, ?_⟩
      rw [schemasToJson_eq_map, List.forall₂_map_left_iff, List.forall₂_same]
      exact each

/-! ## What has been read -/

/-- JSON can say what a schema says, and records in it repeat no key. -/
def Schema.IsReadable (schema : Schema) : Prop :=
  schema.IsRepresentable ∧ schema.IsKeyed

/-- Whether a schema is readable depends on its default and its parameters alone. -/
theorem Schema.IsReadable.congr {schema other : Schema} (readable : schema.IsReadable)
    (default : other.default = schema.default) (rules : other.rules = schema.rules) :
    other.IsReadable := by
  obtain ⟨type, default', items, properties, rules'⟩ := other
  subst default rules
  obtain ⟨representable, keyed⟩ := readable
  exact ⟨⟨representable.1, representable.2, representable.3, representable.4⟩, ⟨keyed.1, keyed.2⟩⟩

/-- The parts that are read from the entries of an object. -/
inductive SchemaPart.IsRead : SchemaPart FieldSchema → Prop
  | type (value : Option TypeSpec) : IsRead (.type value)
  | default {option : Option Value}
      (read : ∀ value, option = some value → value ≠ .null ∧ value.Dateless ∧ value.Keyed) :
      IsRead (.default option)
  | items {option : Option FieldSchema}
      (read : ∀ field, option = some field → field.Every Schema.IsReadable) : IsRead (.items option)
  | properties {option : Option Properties}
      (read : ∀ fields : Properties, option = some fields → Properties.Every Schema.IsReadable fields) :
      IsRead (.properties option)
  | rule {key : String} {param : Value} (unreserved : key ∉ Schema.reservedKeys)
      (dateless : param.Dateless) (keyed : param.Keyed) : IsRead (.rule key param)

/-- A schema stays readable when a part that has been read is set. -/
theorem Schema.Every.withPart {schema : Schema} {part : SchemaPart FieldSchema}
    (every : schema.Every IsReadable) (read : part.IsRead) :
    Schema.Every IsReadable (schema.withPart part) := by
  obtain ⟨here, items, properties⟩ := every
  have ⟨representable, keyed⟩ := here
  cases read with
  | type value => exact ⟨here.congr rfl rfl, items, properties⟩
  | items read => exact ⟨here.congr rfl rfl, read, properties⟩
  | properties read => exact ⟨here.congr rfl rfl, items, read⟩
  | @default option read =>
    have nonnull : option ≠ some .null := fun null => (read _ null).1 rfl
    have default_read : IsReadable { schema with default := option } :=
      ⟨⟨nonnull, fun value found => (read value found).2.1, representable.3, representable.4⟩,
        fun value found => (read value found).2.2, keyed.2⟩
    exact ⟨default_read, items, properties⟩
  | @rule key param unreserved dateless keyed' =>
    -- An entry of the table is the one that is set or was there before.
    have entries {q : String × Value → Prop} (new : q (key, param))
        (old : ∀ entry ∈ schema.rules.entries, q entry) :
        ∀ entry ∈ (schema.rules.insert key param).entries, q entry := by
      intro entry member
      rcases RuleTable.mem_insertSorted member with rfl | before
      · exact new
      · exact old entry before
    have rule_read : IsReadable { schema with rules := schema.rules.insert key param } :=
      ⟨⟨representable.1, representable.2, entries dateless representable.3,
        entries unreserved representable.4⟩, keyed.1, entries keyed' keyed.2⟩
    exact ⟨rule_read, items, properties⟩

/-- A schema of readable parts is readable at every depth. -/
theorem Schema.every_ofParts {parts : List (SchemaPart FieldSchema)}
    (read : ∀ part ∈ parts, part.IsRead) :
    Schema.Every IsReadable (SchemaOver.ofParts parts) := by
  have start : Schema.Every IsReadable {} :=
    ⟨⟨⟨nofun, nofun, nofun, nofun⟩, nofun, nofun⟩, nofun, nofun⟩
  unfold SchemaOver.ofParts
  generalize ({} : Schema) = schema at start
  induction parts generalizing schema with
  | nil => exact start
  | cons part rest ih =>
    apply ih
    · intro other member
      exact read other (List.mem_cons_of_mem _ member)
    · exact start.withPart (read part List.mem_cons_self)

/-- What an entry says has been read, if what is read from the tree of the entry is readable. -/
theorem entryPart?_isRead {key : String} {tree : Json} {part : SchemaPart FieldSchema}
    (fields : ∀ field, FieldSchema.ofJson? tree = some field → field.Every Schema.IsReadable)
    (nested : ∀ fields : Properties, propertiesOfJson? tree = some (some fields) →
      Properties.Every Schema.IsReadable fields)
    (h : entryPart? key tree = some part) : part.IsRead := by
  have value := Value.ofJson_readable tree
  cases entryPart?_eq_some_iff.mp h with
  | type read => exact .type _
  | default tree =>
    refine .default ?_
    intro value' found
    cases tree with
    | null => cases found
    | _ =>
      cases found
      exact ⟨nofun, value⟩
  | items read =>
    refine .items ?_
    rintro field rfl
    obtain ⟨-, absent⟩ | ⟨-, found, same, field_ok⟩ := rel_nonNull?_iff.mp read
    · cases absent
    · exact fields field (Option.some.inj same ▸ field_ok)
  | properties read =>
    refine .properties ?_
    rintro option rfl
    exact nested option (propertiesOfJson?_eq_some_iff.mpr read)
  | rule unreserved tree => exact .rule unreserved value.1 value.2

/-- **What has been read is readable**: by induction on the tree. -/
theorem FieldSchema.every_of_ofJson? (tree : Json) :
    (∀ field, FieldSchema.ofJson? tree = some field → field.Every Schema.IsReadable) ∧
      ∀ fields : Properties, propertiesOfJson? tree = some (some fields) →
        Properties.Every Schema.IsReadable fields := by
  induction tree using Json.induction with
  | step tree ih =>
    constructor
    · intro field read
      rw [every_iff]
      rcases FieldSchema.ofJson?_eq_some_iff.mp read with
        ⟨schema, rfl, schema_ok⟩ | ⟨elements, schemas, rfl, rfl, schemas_ok⟩
      · obtain ⟨entries, parts, rfl, -, parts_ok, rfl⟩ := schemaOfJson?_eq_some_iff.mp schema_ok
        have parts_read : ∀ part ∈ parts, part.IsRead := by
          intro part member
          obtain ⟨entry, listed, part_ok⟩ := exists_mem_of_forall₂ parts_ok member
          obtain ⟨fields, nested⟩ := ih entry.2 (.entry listed)
          exact entryPart?_isRead fields nested part_ok
        simpa [alternatives] using Schema.every_ofParts parts_read
      · intro schema member
        -- An element that is read as a schema is also read as a field with that schema.
        obtain ⟨element, listed, schema_ok⟩ := exists_mem_of_forall₂ schemas_ok member
        have single : FieldSchema.ofJson? element = some (.single schema) :=
          FieldSchema.ofJson?_eq_some_iff.mpr (Or.inl ⟨schema, rfl, schema_ok⟩)
        have every := (ih element (.element listed)).1 _ single
        exact every_iff.mp every schema List.mem_cons_self
    · intro fields read declared member
      cases tree with
      | object entries =>
        obtain ⟨found, fields_ok, same⟩ := Option.map_eq_some_iff.mp read
        obtain rfl : found = fields := Option.some.inj same
        obtain ⟨entry, listed, -, field_ok⟩ :=
          exists_mem_of_forall₂ (fieldsOfEntries?_eq_some_iff.mp fields_ok) member
        exact (ih entry.2 (.entry listed)).1 declared.2 field_ok
      | _ => simp [propertiesOfJson?] at read

end Intake
