import Intake.Proofs.ValueTrees
import Intake.Schema.Writer

/-!
# What the entries of a schema object say

Reading an object, each entry says one part of the schema (`entryPart?`, `EntrySays`), and the schema is
put together from the parts; writing goes the other way (`Schema.parts`). A schema is the one that its own
parts make (`Schema.ofParts_parts`), since a rule table is sorted by its keys, and its entries say these
parts if its default and its parameters can be read back (`Schema.written_says_parts`).
-/

set_option autoImplicit false

namespace Intake

/-! ## Rule tables -/

namespace RuleTable

/-- Tables of the same entries are the same. -/
theorem ext_entries {table other : RuleTable} (h : table.entries = other.entries) : table = other := by
  cases table
  cases other
  cases h
  rfl

/-- An entry with a key greater than all others comes last. -/
theorem insertSorted_eq_append {key : String} {param : Value} {entries : List (String × Value)}
    (last : ∀ entry ∈ entries, entry.1 < key) :
    insertSorted key param entries = entries ++ [(key, param)] := by
  induction entries with
  | nil => rfl
  | cons first rest ih =>
    obtain ⟨k, p⟩ := first
    have before : k < key := last _ List.mem_cons_self
    have notAfter : ¬ key < k := String.lt_asymm before
    have others := ih fun entry member => last entry (List.mem_cons_of_mem _ member)
    rw [insertSorted, if_neg notAfter, if_pos before, others, List.cons_append]

/-- Parameters that are set in the order of their keys go to the end, one after the other. -/
theorem entries_foldl_insert {table : RuleTable} {entries : List (String × Value)}
    (sorted : (table.entries ++ entries).Pairwise fun a b => a.1 < b.1) :
    (entries.foldl (fun table entry => table.insert entry.1 entry.2) table).entries
      = table.entries ++ entries := by
  induction entries generalizing table with
  | nil => simp
  | cons entry rest ih =>
    have last : ∀ other ∈ table.entries, other.1 < entry.1 := by
      intro other member
      exact (List.pairwise_append.mp sorted).2.2 other member entry List.mem_cons_self
    have extended : (table.insert entry.1 entry.2).entries = table.entries ++ [entry] :=
      insertSorted_eq_append last
    have later : ((table.insert entry.1 entry.2).entries ++ rest).Pairwise fun a b => a.1 < b.1 := by
      rw [extended, List.append_assoc]
      exact sorted
    rw [List.foldl_cons, ih later, extended, List.append_assoc]
    rfl

/-- The parameters of a table, set one after the other, make the table. -/
theorem foldl_insert_empty (table : RuleTable) :
    table.entries.foldl (fun table entry => table.insert entry.1 entry.2) empty = table := by
  apply ext_entries
  have sorted : (empty.entries ++ table.entries).Pairwise fun a b => a.1 < b.1 := table.sorted
  exact entries_foldl_insert sorted

end RuleTable

/-! ## The parts of a schema -/

/-- The parts of a schema, in the order in which they are written. -/
def Schema.parts (schema : Schema) : List (SchemaPart FieldSchema) :=
  (schema.type.map fun type => SchemaPart.type (some type)).toList
    ++ (schema.default.map fun value => SchemaPart.default (some value)).toList
    ++ (schema.items.map fun field => SchemaPart.items (some field)).toList
    ++ (schema.properties.map fun fields => SchemaPart.properties (some fields)).toList
    ++ schema.rules.entries.map fun entry => SchemaPart.rule entry.1 entry.2

/-- Parts that are rules go to the rules of a schema, one after the other. -/
theorem foldl_withPart_rules (schema : Schema) (entries : List (String × Value)) :
    (entries.map fun entry => SchemaPart.rule entry.1 entry.2).foldl SchemaOver.withPart schema
      = { schema with
          rules := entries.foldl (fun table entry => table.insert entry.1 entry.2) schema.rules } := by
  induction entries generalizing schema with
  | nil => rfl
  | cons entry rest ih =>
    rw [List.map_cons, List.foldl_cons, ih]
    rfl

/-- **A schema is the one that its parts make.** -/
theorem Schema.ofParts_parts (schema : Schema) : SchemaOver.ofParts schema.parts = schema := by
  obtain ⟨type, default, items, properties, rules⟩ := schema
  unfold SchemaOver.ofParts parts
  rw [List.foldl_append, foldl_withPart_rules]
  -- Each optional part is set if it is there, and the rules are still empty then.
  cases type <;> cases default <;> cases items <;> cases properties <;>
    simp [SchemaOver.withPart, RuleTable.foldl_insert_empty]

/-! ## Parts and null -/

variable {key : String} {tree : Json}

namespace Json

/-- The tree, unless it is null. -/
def nonNull? : Json → Option Json
  | .null => none
  | tree => some tree

/-- There is one tree that is null. -/
theorem isNull_iff : tree.isNull = true ↔ tree = .null := by
  cases tree <;> simp [isNull]

end Json

/-- An optional part is read from a tree, or is missing where there is null. -/
theorem rel_nonNull?_iff {α : Type} {reads : Json → α → Prop} {option : Option α} :
    Option.Rel reads tree.nonNull? option ↔
      tree = .null ∧ option = none ∨ tree ≠ .null ∧ ∃ a, option = some a ∧ reads tree a := by
  cases tree <;> cases option <;> simp [Json.nonNull?]

/-- The tree is read as the field schema. -/
def FieldSchema.IsReadFrom (tree : Json) (field : FieldSchema) : Prop :=
  FieldSchema.ofJson? tree = some field

/-- The tree is read as the named fields. -/
def Properties.IsReadFrom (tree : Json) (fields : Properties) : Prop :=
  propertiesOfJson? tree = some (some fields)

/-- Nested fields are read from a tree that is not null, and from null as missing. -/
theorem propertiesOfJson?_eq_some_iff {fields : Option Properties} :
    propertiesOfJson? tree = some fields ↔ Option.Rel Properties.IsReadFrom tree.nonNull? fields := by
  rw [rel_nonNull?_iff]
  cases tree with
  | null => simp [propertiesOfJson?, eq_comm]
  | object entries => cases fields <;> simp [propertiesOfJson?, Properties.IsReadFrom]
  | _ => simp [propertiesOfJson?, Properties.IsReadFrom]

/-! ## Declared types -/

/-- Strings are read back from their trees. -/
theorem stringsOfJson?_map (names : List String) :
    stringsOfJson? (names.map Json.string) = some names := by
  induction names with
  | nil => rfl
  | cons name rest ih =>
    rw [List.map_cons, stringsOfJson?, ih]
    rfl

/-- Strings are read from strings only. -/
theorem stringsOfJson?_eq_some_iff {trees : List Json} {names : List String} :
    stringsOfJson? trees = some names ↔ trees = names.map .string := by
  refine ⟨fun read => ?_, fun same => same ▸ stringsOfJson?_map names⟩
  induction trees generalizing names with
  | nil =>
    cases read
    rfl
  | cons tree rest ih =>
    cases tree with
    | string name =>
      obtain ⟨others, later, rfl⟩ := Option.map_eq_some_iff.mp read
      rw [List.map_cons, ih later]
    | _ => cases read

/-- A type is read back from its tree. -/
theorem TypeSpec.ofJson?_toJson (type : TypeSpec) :
    TypeSpec.ofJson? type.toJson = some (some type) := by
  cases type with
  | one name => rfl
  | union names => rw [toJson, ofJson?, stringsOfJson?_map]; rfl

/-- The declared types that trees denote. -/
inductive Json.DenotesType : Json → TypeSpec → Prop
  /-- A name. -/
  | one (name : String) : DenotesType (.string name) (.one name)
  /-- A list of names. -/
  | union (names : List String) : DenotesType (.array (names.map .string)) (.union names)

/-- A tree that denotes a type is read as this type. -/
theorem Json.DenotesType.ofJson? {type : TypeSpec} (denoted : tree.DenotesType type) :
    TypeSpec.ofJson? tree = some (some type) := by
  cases denoted with
  | one name => rfl
  | union names => exact TypeSpec.ofJson?_toJson (.union names)

/-- A type is read from a tree that denotes it, and from null as missing. -/
theorem TypeSpec.ofJson?_eq_some_iff {type : Option TypeSpec} :
    TypeSpec.ofJson? tree = some type ↔ Option.Rel Json.DenotesType tree.nonNull? type := by
  rw [rel_nonNull?_iff]
  constructor
  · intro read
    cases tree with
    | null =>
      cases read
      exact Or.inl ⟨rfl, rfl⟩
    | string name =>
      cases read
      exact Or.inr ⟨nofun, _, rfl, .one name⟩
    | array trees =>
      obtain ⟨names, strings, rfl⟩ := Option.map_eq_some_iff.mp read
      rw [stringsOfJson?_eq_some_iff.mp strings]
      exact Or.inr ⟨nofun, _, rfl, .union names⟩
    | _ => cases read
  · rintro (⟨rfl, rfl⟩ | ⟨-, type, rfl, denoted⟩)
    · rfl
    · exact denoted.ofJson?

/-! ## What one entry says -/

/-- What one entry of a schema object says, if it can be read. -/
def entryPart? (key : String) (tree : Json) : Option (SchemaPart FieldSchema) :=
  if key = "type" then (TypeSpec.ofJson? tree).map .type
  else if key = "default" then some (.default (defaultOfJson tree))
  else if key = "items" then
    if tree.isNull then some (.items none)
    else (FieldSchema.ofJson? tree).map fun field => SchemaPart.items (some field)
  else if key = "properties" then (propertiesOfJson? tree).map .properties
  else some (.rule key (Value.ofJson tree))

/-- What an entry says, by its key. Null says nothing. -/
inductive EntrySays : String → Json → SchemaPart FieldSchema → Prop
  | type {tree : Json} {value : Option TypeSpec}
      (read : Option.Rel Json.DenotesType tree.nonNull? value) : EntrySays "type" tree (.type value)
  | default (tree : Json) : EntrySays "default" tree (.default (tree.nonNull?.map Value.ofJson))
  | items {tree : Json} {value : Option FieldSchema}
      (read : Option.Rel FieldSchema.IsReadFrom tree.nonNull? value) :
      EntrySays "items" tree (.items value)
  | properties {tree : Json} {value : Option Properties}
      (read : Option.Rel Properties.IsReadFrom tree.nonNull? value) :
      EntrySays "properties" tree (.properties value)
  | rule {key : String} (unreserved : key ∉ Schema.reservedKeys) (tree : Json) :
      EntrySays key tree (.rule key (Value.ofJson tree))

/-- An entry is read as the part that it says. -/
theorem entryPart?_eq_some_iff {part : SchemaPart FieldSchema} :
    entryPart? key tree = some part ↔ EntrySays key tree part := by
  have default_eq : defaultOfJson tree = tree.nonNull?.map Value.ofJson := by cases tree <;> rfl
  rw [entryPart?, default_eq]
  constructor
  · intro read
    split_ifs at read with type default items null properties
    · obtain ⟨value, type_ok, rfl⟩ := Option.map_eq_some_iff.mp read
      subst type
      exact .type (TypeSpec.ofJson?_eq_some_iff.mp type_ok)
    · cases read
      subst default
      exact .default tree
    · cases read
      subst items
      exact .items (rel_nonNull?_iff.mpr (Or.inl ⟨Json.isNull_iff.mp null, rfl⟩))
    · obtain ⟨field, field_ok, rfl⟩ := Option.map_eq_some_iff.mp read
      subst items
      exact .items (rel_nonNull?_iff.mpr (Or.inr ⟨mt Json.isNull_iff.mpr null, field, rfl, field_ok⟩))
    · obtain ⟨value, properties_ok, rfl⟩ := Option.map_eq_some_iff.mp read
      subst properties
      exact .properties (propertiesOfJson?_eq_some_iff.mp properties_ok)
    · cases read
      exact .rule (by simp [Schema.reservedKeys, *]) tree
  · intro said
    cases said with
    | type read => simp [TypeSpec.ofJson?_eq_some_iff.mpr read]
    | default tree => simp
    | items read =>
      rcases rel_nonNull?_iff.mp read with ⟨rfl, rfl⟩ | ⟨some, field, rfl, field_ok⟩
      · rfl
      · rw [FieldSchema.IsReadFrom] at field_ok
        simp [mt Json.isNull_iff.mp some, field_ok]
    | properties read => simp [propertiesOfJson?_eq_some_iff.mpr read]
    | rule unreserved tree =>
      simp only [Schema.reservedKeys, List.mem_cons, List.not_mem_nil, or_false, not_or] at unreserved
      simp [unreserved]

/-- The entries of an object are read one by one. -/
theorem partsOfEntries?_eq_some_iff {entries : List (String × Json)}
    {parts : List (SchemaPart FieldSchema)} :
    partsOfEntries? entries = some parts
      ↔ List.Forall₂ (fun entry part => entryPart? entry.1 entry.2 = some part) entries parts := by
  induction entries generalizing parts with
  | nil => simp [partsOfEntries?, eq_comm]
  | cons entry rest ih =>
    obtain ⟨key, tree⟩ := entry
    have first : partsOfEntries? ((key, tree) :: rest) = (entryPart? key tree).bind fun part =>
        (partsOfEntries? rest).map (part :: ·) := by
      rw [partsOfEntries?, ← entryPart?]
      cases entryPart? key tree <;> cases partsOfEntries? rest <;> rfl
    rw [first, List.forall₂_cons_left_iff]
    simp only [← ih]
    cases entryPart? key tree <;> cases partsOfEntries? rest <;> simp [eq_comm]

/-- Whether the keys of the schema language are repeated depends on the keys alone. -/
theorem reservedOnce_iff {entries : List (String × Json)} :
    reservedOnce entries = true
      ↔ ∀ key ∈ Schema.reservedKeys, (entries.map Prod.fst).count key ≤ 1 := by
  simp [reservedOnce]

/-- A schema is read from an object that does not repeat the keys of the schema language. -/
theorem schemaOfJson?_eq_some_iff {tree : Json} {schema : Schema} :
    schemaOfJson? tree = some schema ↔ ∃ entries parts, tree = .object entries ∧
      reservedOnce entries = true ∧
      List.Forall₂ (fun entry part => entryPart? entry.1 entry.2 = some part) entries parts ∧
      SchemaOver.ofParts parts = schema := by
  simp only [← partsOfEntries?_eq_some_iff]
  constructor
  · intro read
    cases tree with
    | object entries =>
      rw [schemaOfJson?] at read
      split at read
      · rename_i once
        obtain ⟨parts, parts_ok, made⟩ := Option.map_eq_some_iff.mp read
        exact ⟨entries, parts, rfl, once, parts_ok, made⟩
      · cases read
    | _ => cases read
  · rintro ⟨entries, parts, rfl, once, parts_ok, rfl⟩
    rw [schemaOfJson?, if_pos once, parts_ok]
    rfl

/-! ## Writing the parts of a schema -/

/-- The entries of the object that is written for a schema. -/
def Schema.written (schema : Schema) : List (String × Json) :=
  optionalEntry "type" (schema.type.map TypeSpec.toJson)
    ++ optionalEntry "default" (schema.default.map Value.toJson)
    ++ optionalEntry "items" (itemsToJson schema.items)
    ++ optionalEntry "properties" (propertiesToJson schema.properties)
    ++ schema.rules.entries.map fun entry => (entry.1, entry.2.toJson)

/-- A schema is written as the object of its entries. -/
theorem schemaToJson_eq (schema : Schema) : schemaToJson schema = .object schema.written := by
  cases schema
  rfl

/-- What JSON can say of one schema: null is no default, there are no points in time, and no rule has the
name of a key of the schema language. -/
structure Schema.IsRepresentable (schema : Schema) : Prop where
  /-- The default is not the explicit null. -/
  default_ne_null : schema.default ≠ some .null
  /-- The default holds no point in time. -/
  dateless_default : ∀ value, schema.default = some value → value.Dateless
  /-- The parameters hold no point in time. -/
  dateless_rules : ∀ entry ∈ schema.rules.entries, entry.2.Dateless
  /-- The keys of the parameters are not those of the schema language. -/
  unreserved : ∀ entry ∈ schema.rules.entries, entry.1 ∉ reservedKeys

/-- The records in the default and in the parameters of a schema repeat no key. -/
structure Schema.IsKeyed (schema : Schema) : Prop where
  /-- The default repeats no key. -/
  default : ∀ value, schema.default = some value → value.Keyed
  /-- The parameters repeat no key. -/
  rules : ∀ entry ∈ schema.rules.entries, entry.2.Keyed

/-- What may be missing is written under its own key. -/
theorem optionalEntry_sublist (key : String) (tree : Option Json) :
    ((optionalEntry key tree).map Prod.fst).Sublist [key] := by
  cases tree <;> simp [optionalEntry]

/-- No key of the schema language is written twice. -/
theorem Schema.IsRepresentable.reservedOnce_written {schema : Schema}
    (representable : schema.IsRepresentable) : reservedOnce schema.written = true := by
  rw [reservedOnce_iff]
  intro key reserved
  have rules : (schema.rules.entries.map fun entry => entry.1).count key = 0 := by
    rw [List.count_eq_zero]
    intro member
    obtain ⟨entry, listed, rfl⟩ := List.mem_map.mp member
    exact representable.unreserved entry listed reserved
  -- The other entries are some of the four, in order.
  have others : ((optionalEntry "type" (schema.type.map TypeSpec.toJson)
      ++ optionalEntry "default" (schema.default.map Value.toJson)
      ++ optionalEntry "items" (itemsToJson schema.items)
      ++ optionalEntry "properties" (propertiesToJson schema.properties)).map Prod.fst).Sublist
        (["type"] ++ ["default"] ++ ["items"] ++ ["properties"]) := by
    simp only [List.map_append]
    have type := optionalEntry_sublist "type" (schema.type.map TypeSpec.toJson)
    have default := optionalEntry_sublist "default" (schema.default.map Value.toJson)
    have items := optionalEntry_sublist "items" (itemsToJson schema.items)
    have properties := optionalEntry_sublist "properties" (propertiesToJson schema.properties)
    exact ((type.append default).append items).append properties
  have distinct : (["type"] ++ ["default"] ++ ["items"] ++ ["properties"]).Nodup := by decide
  have once := List.nodup_iff_count_le_one.mp (distinct.sublist others) key
  unfold written
  rw [List.map_append, List.count_append, List.map_map]
  exact (Nat.add_le_add once (Nat.le_of_eq rules)).trans (by simp)

/-- An optional part that is written as one entry is read as that part. -/
theorem forall₂_optionalEntry {α : Type} {key : String} {write : α → Json}
    {part : α → SchemaPart FieldSchema} {option : Option α}
    (back : ∀ a, option = some a → entryPart? key (write a) = some (part a)) :
    List.Forall₂ (fun entry part => entryPart? entry.1 entry.2 = some part)
      (optionalEntry key (option.map write)) (option.map part).toList := by
  cases option with
  | none => exact .nil
  | some a => exact .cons (back a rfl) .nil

/-- No field is written as null. -/
theorem FieldSchema.isNull_toJson (field : FieldSchema) : field.toJson.isNull = false := by
  cases field with
  | single schema => rw [toJson, schemaToJson_eq]; rfl
  | union schemas => rfl

/-- An element schema is written as a field, if there is one. -/
theorem itemsToJson_eq_map (items : Option FieldSchema) :
    itemsToJson items = items.map FieldSchema.toJson := by
  cases items <;> rfl

/-- Nested fields are written as fields, if there are any. -/
theorem propertiesToJson_eq_map (properties : Option Properties) :
    propertiesToJson properties = properties.map Properties.toJson := by
  cases properties <;> rfl

/-- A rule parameter is read back, unless its key is one of the schema language. -/
theorem entryPart?_rule {key : String} {param : Value} (unreserved : key ∉ Schema.reservedKeys)
    (dateless : param.Dateless) (keyed : param.Keyed) :
    entryPart? key param.toJson = some (.rule key param) := by
  have said := EntrySays.rule unreserved param.toJson
  rw [Value.ofJson_toJson dateless keyed] at said
  exact entryPart?_eq_some_iff.mpr said

/-- A default is read back, unless it is null. -/
theorem defaultOfJson_toJson {value : Value} (nonnull : value ≠ .null) (dateless : value.Dateless)
    (keyed : value.Keyed) : defaultOfJson value.toJson = some value := by
  have back := Value.ofJson_toJson dateless keyed
  cases value with
  | null => exact absurd rfl nonnull
  | _ => exact congrArg some back

/-- **What is written for a schema says its parts**, if its element schema and its nested fields are read
back. -/
theorem Schema.written_says_parts {schema : Schema} (representable : schema.IsRepresentable)
    (keyed : schema.IsKeyed)
    (items : ∀ element, schema.items = some element →
      FieldSchema.ofJson? element.toJson = some element)
    (properties : ∀ fields : Properties, schema.properties = some fields →
      Properties.ofJson? fields.toJson = some fields) :
    List.Forall₂ (fun entry part => entryPart? entry.1 entry.2 = some part) schema.written
      schema.parts := by
  unfold written parts
  rw [itemsToJson_eq_map, propertiesToJson_eq_map]
  refine List.rel_append (List.rel_append (List.rel_append (List.rel_append ?_ ?_) ?_) ?_) ?_
  · apply forall₂_optionalEntry
    intro type _
    simp [entryPart?, TypeSpec.ofJson?_toJson]
  · apply forall₂_optionalEntry
    intro value default
    have nonnull : value ≠ .null := by
      rintro rfl
      exact representable.default_ne_null default
    have back := defaultOfJson_toJson nonnull (representable.dateless_default value default)
      (keyed.default value default)
    simp [entryPart?, back]
  · apply forall₂_optionalEntry
    intro element found
    simp [entryPart?, items element found, element.isNull_toJson]
  · apply forall₂_optionalEntry
    intro fields found
    have back : propertiesOfJson? fields.toJson = some (some fields) :=
      congrArg (Option.map some) (properties fields found)
    simp [entryPart?, back]
  · rw [List.forall₂_map_left_iff, List.forall₂_map_right_iff, List.forall₂_same]
    intro entry member
    exact entryPart?_rule (representable.unreserved entry member)
      (representable.dateless_rules entry member) (keyed.rules entry member)

/-- A schema is read back as itself, if its element schema and its nested fields are. -/
theorem Schema.ofJson?_toJson_of_parts {schema : Schema} (representable : schema.IsRepresentable)
    (keyed : schema.IsKeyed)
    (items : ∀ element, schema.items = some element →
      FieldSchema.ofJson? element.toJson = some element)
    (properties : ∀ fields : Properties, schema.properties = some fields →
      Properties.ofJson? fields.toJson = some fields) :
    schemaOfJson? (schemaToJson schema) = some schema := by
  rw [schemaOfJson?_eq_some_iff]
  exact ⟨schema.written, schema.parts, schemaToJson_eq schema, representable.reservedOnce_written,
    schema.written_says_parts representable keyed items properties, schema.ofParts_parts⟩

end Intake
