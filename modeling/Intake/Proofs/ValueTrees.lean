import Intake.Proofs.Outputs
import Intake.Schema.Reader

/-!
# Values and their JSON trees

A value that repeats no key is read back from its JSON tree with a string in place of each point in time
(`Value.ofJson_toJson_eq_datesAsTexts`), and as itself if it holds none (`Value.ofJson_toJson`). Both
conditions are needed, and what has been read meets them: points in time come back as strings, and of a
repeated key one entry is left. Values are trees, and the conditions are about what stands anywhere within a
value (`Value.Everywhere`).
-/

set_option autoImplicit false

namespace Intake

/-! ## Parts of values and of JSON trees -/

/-- The values that stand directly below a value. -/
inductive Value.Part : Value → Value → Prop
  /-- An element of an array. -/
  | element {elements : List Value} {part : Value} (member : part ∈ elements) :
      Part part (.array elements)
  /-- The value of an entry of a record. -/
  | entry {entries : Record} {entry : String × Value} (member : entry ∈ entries) :
      Part entry.2 (.object entries)

/-- A value stands within another: below it at some depth, or it is the other itself. -/
def Value.Within : Value → Value → Prop :=
  Relation.ReflTransGen Value.Part

/-- **Induction over values**: what holds of a value whenever it holds of all its parts holds of every
value. -/
theorem Value.induction {motive : Value → Prop}
    (step : ∀ value, (∀ part : Value, part.Part value → motive part) → motive value) (value : Value) :
    motive value := by
  apply Value.rec
    (motive_1 := motive)
    (motive_2 := fun elements => ∀ element ∈ elements, motive element)
    (motive_3 := fun entries => ∀ entry ∈ entries, motive entry.2)
    (motive_4 := fun entry => motive entry.2)
  case array =>
    intro elements ih
    apply step
    intro part below
    cases below with
    | element member => exact ih part member
  case object =>
    intro entries ih
    apply step
    intro part below
    cases below with
    | entry member => exact ih _ member
  case null => exact step _ nofun
  case bool => exact fun _ => step _ nofun
  case number => exact fun _ => step _ nofun
  case string => exact fun _ => step _ nofun
  case date => exact fun _ => step _ nofun
  all_goals simp_all

/-- The trees that stand directly below a JSON tree. -/
inductive Json.Part : Json → Json → Prop
  /-- An element of an array. -/
  | element {elements : List Json} {part : Json} (member : part ∈ elements) :
      Part part (.array elements)
  /-- The tree of an entry of an object. -/
  | entry {entries : List (String × Json)} {entry : String × Json} (member : entry ∈ entries) :
      Part entry.2 (.object entries)

/-- **Induction over JSON trees**: what holds of a tree whenever it holds of all its parts holds of every
tree. -/
theorem Json.induction {motive : Json → Prop}
    (step : ∀ tree, (∀ part : Json, part.Part tree → motive part) → motive tree) (tree : Json) :
    motive tree := by
  apply Json.rec
    (motive_1 := motive)
    (motive_2 := fun elements => ∀ element ∈ elements, motive element)
    (motive_3 := fun entries => ∀ entry ∈ entries, motive entry.2)
    (motive_4 := fun entry => motive entry.2)
  case array =>
    intro elements ih
    apply step
    intro part below
    cases below with
    | element member => exact ih part member
  case object =>
    intro entries ih
    apply step
    intro part below
    cases below with
    | entry member => exact ih _ member
  case null => exact step _ nofun
  case bool => exact fun _ => step _ nofun
  case number => exact fun _ => step _ nofun
  case string => exact fun _ => step _ nofun
  all_goals simp_all

/-! ## What holds everywhere in a value -/

/-- A property holds of a value and of all that stands within it. -/
def Value.Everywhere (p : Value → Prop) (value : Value) : Prop :=
  ∀ inner : Value, inner.Within value → p inner

/-- A property holds everywhere in a value if it holds of the value and everywhere in its parts. -/
theorem Value.everywhere_iff {p : Value → Prop} {value : Value} :
    value.Everywhere p ↔ p value ∧ ∀ part : Value, part.Part value → part.Everywhere p := by
  constructor
  · intro all
    refine ⟨all value .refl, ?_⟩
    intro part below inner within
    exact all inner (within.tail below)
  · rintro ⟨here, parts⟩ inner within
    rcases Relation.ReflTransGen.cases_tail within with same | ⟨part, deeper, below⟩
    · rw [← same]
      exact here
    · exact parts part below inner deeper

/-- A property holds everywhere in an array if it holds of the array and everywhere in its elements. -/
theorem Value.everywhere_array {p : Value → Prop} {elements : List Value} :
    (Value.array elements).Everywhere p
      ↔ p (.array elements) ∧ ∀ element ∈ elements, element.Everywhere p := by
  rw [everywhere_iff]
  apply and_congr_right'
  constructor
  · intro parts element member
    exact parts element (.element member)
  · intro each part below
    cases below with
    | element member => exact each part member

/-- A property holds everywhere in an object if it holds of the object and everywhere in what its keys have.
-/
theorem Value.everywhere_object {p : Value → Prop} {entries : Record} :
    (Value.object entries).Everywhere p
      ↔ p (.object entries) ∧ ∀ entry ∈ entries, entry.2.Everywhere p := by
  rw [everywhere_iff]
  apply and_congr_right'
  constructor
  · intro parts entry member
    exact parts entry.2 (.entry member)
  · intro each part below
    cases below with
    | entry member => exact each _ member

/-- What holds of a value without parts holds everywhere in it. -/
theorem Value.everywhere_atom {p : Value → Prop} {value : Value}
    (atom : value.kind ≠ .array ∧ value.kind ≠ .object) : value.Everywhere p ↔ p value := by
  rw [everywhere_iff, and_iff_left_iff_imp]
  intro _ part below
  cases below with
  | element => exact absurd rfl atom.1
  | entry => exact absurd rfl atom.2

/-- No point in time stands anywhere within a value. -/
def Value.Dateless : Value → Prop :=
  Everywhere fun inner => inner.kind ≠ .date

/-- No record within a value repeats a key. -/
def Value.Keyed : Value → Prop :=
  Everywhere fun inner => ∀ entries, inner = .object entries → (Record.keys entries).Nodup

/-! ## Records of distinct keys -/

namespace Record

variable {record : Record}

/-- To write under a key repeats no key. -/
theorem nodup_keys_insert (distinct : (keys record).Nodup) (key : String) (value : Value) :
    (keys (insert record key value)).Nodup := by
  rw [keys_insert]
  split
  · exact distinct
  · rename_i new
    exact List.nodup_append.mpr ⟨distinct, by simp, by grind⟩

/-- Entries of distinct new keys go to the end of a record, in order. -/
theorem foldl_insert_eq_append (record : Record) (entries : List (String × Value))
    (distinct : (keys (record ++ entries)).Nodup) :
    entries.foldl (fun record (key, value) => insert record key value) record
      = record ++ entries := by
  induction entries generalizing record with
  | nil => simp
  | cons entry rest ih =>
    obtain ⟨key, value⟩ := entry
    have new : key ∉ keys record := by
      simp only [keys, List.map_append, List.map_cons, List.nodup_append] at distinct
      intro present
      exact distinct.2.2 _ present _ List.mem_cons_self rfl
    have later : (keys (record ++ [(key, value)] ++ rest)).Nodup := by simpa using distinct
    simp only [List.foldl_cons, insert_eq_append new]
    rw [ih _ later, List.append_assoc]
    rfl

/-- A list of entries without a repeated key is a record already. -/
theorem ofEntries_eq_self {entries : List (String × Value)} (distinct : (keys entries).Nodup) :
    ofEntries entries = entries :=
  foldl_insert_eq_append [] entries distinct

/-- A record that is made from entries repeats no key. -/
theorem nodup_keys_ofEntries (entries : List (String × Value)) :
    (keys (ofEntries entries)).Nodup := by
  unfold ofEntries
  have start : (keys []).Nodup := List.nodup_nil
  generalize ([] : Record) = record at start
  induction entries generalizing record with
  | nil => exact start
  | cons entry rest ih => exact ih _ (nodup_keys_insert start entry.1 entry.2)

/-- What stands in a record after writes stood in it before or has been written. -/
theorem mem_foldl_insert {entries : List (String × Value)} {entry : String × Value}
    (h : entry ∈ entries.foldl (fun record (key, value) => insert record key value) record) :
    entry ∈ record ∨ entry ∈ entries := by
  induction entries generalizing record with
  | nil => exact Or.inl h
  | cons first rest ih =>
    rcases ih h with before | later
    · rcases mem_insert before with here | earlier
      · exact Or.inr (here ▸ List.mem_cons_self)
      · exact Or.inl earlier
    · exact Or.inr (List.mem_cons_of_mem _ later)

/-- A record that is made from entries holds nothing else. -/
theorem mem_of_mem_ofEntries {entries : List (String × Value)} {entry : String × Value}
    (h : entry ∈ ofEntries entries) : entry ∈ entries := by
  rcases mem_foldl_insert h with before | listed
  · cases before
  · exact listed

/-- What is found under a key stands in the record. -/
theorem mem_of_get? {key : String} {value : Value} (h : get? record key = some value) :
    (key, value) ∈ record := by
  have found : (Registry.mk record).get? key = some value := h
  exact Registry.mem_of_get? found

/-- Each entry of a record without a repeated key is found under its key. -/
theorem get?_of_mem {entry : String × Value} (distinct : (keys record).Nodup)
    (member : entry ∈ record) : get? record entry.1 = some entry.2 := by
  induction record with
  | nil => cases member
  | cons first rest ih =>
    obtain ⟨key, value⟩ := first
    obtain ⟨new, later⟩ := List.nodup_cons.mp distinct
    rcases List.mem_cons.mp member with rfl | there
    · simp [get?_cons]
    · have different : key ≠ entry.1 := by
        intro same
        exact new (List.mem_map.mpr ⟨entry, there, same.symm⟩)
      rw [get?_cons, if_neg different]
      exact ih later there

end Record

/-! ## Writing and reading -/

/-- The elements of an array become trees one by one. -/
theorem elementsToJson_eq_map (elements : List Value) :
    elementsToJson elements = elements.map Value.toJson := by
  induction elements with
  | nil => rfl
  | cons element rest ih => rw [elementsToJson, ih, List.map_cons]

/-- The entries of an object become trees one by one, under their keys. -/
theorem entriesToJson_eq_map (entries : List (String × Value)) :
    entriesToJson entries = entries.map fun entry => (entry.1, entry.2.toJson) := by
  induction entries with
  | nil => rfl
  | cons entry rest ih => rw [entriesToJson, ih, List.map_cons]

/-- Elements are made from trees one by one. -/
theorem elementsOfJson_eq_map (elements : List Json) :
    elementsOfJson elements = elements.map Value.ofJson := by
  induction elements with
  | nil => rfl
  | cons element rest ih => rw [elementsOfJson, ih, List.map_cons]

/-- Entries are made from trees one by one, under their keys. -/
theorem entriesOfJson_eq_map (entries : List (String × Json)) :
    entriesOfJson entries = entries.map fun entry => (entry.1, Value.ofJson entry.2) := by
  induction entries with
  | nil => rfl
  | cons entry rest ih => rw [entriesOfJson, ih, List.map_cons]

mutual

/-- The value with the string of its text in place of each point in time, at any depth. -/
def Value.datesAsTexts : Value → Value
  | .date t => .string (String.ofList t.text)
  | .array elements => .array (elementsDatesAsTexts elements)
  | .object entries => .object (entriesDatesAsTexts entries)
  | other => other

/-- The elements of an array with strings in place of points in time. -/
def elementsDatesAsTexts : List Value → List Value
  | [] => []
  | element :: rest => element.datesAsTexts :: elementsDatesAsTexts rest

/-- The entries of a record with strings in place of points in time, under the same keys. -/
def entriesDatesAsTexts : List (String × Value) → List (String × Value)
  | [] => []
  | (key, value) :: rest => (key, value.datesAsTexts) :: entriesDatesAsTexts rest

end

/-- The dates among the elements of an array become texts one by one. -/
theorem elementsDatesAsTexts_eq_map (elements : List Value) :
    elementsDatesAsTexts elements = elements.map Value.datesAsTexts := by
  induction elements with
  | nil => rfl
  | cons element rest ih => rw [elementsDatesAsTexts, ih, List.map_cons]

/-- The dates among the entries of an object become texts one by one, under their keys. -/
theorem entriesDatesAsTexts_eq_map (entries : List (String × Value)) :
    entriesDatesAsTexts entries = entries.map fun entry => (entry.1, entry.2.datesAsTexts) := by
  induction entries with
  | nil => rfl
  | cons entry rest ih => rw [entriesDatesAsTexts, ih, List.map_cons]

/-- **A value without repeated keys is read back with strings in place of its points in time.** -/
theorem Value.ofJson_toJson_eq_datesAsTexts {value : Value} (keyed : value.Keyed) :
    Value.ofJson value.toJson = value.datesAsTexts := by
  induction value using Value.induction with
  | step value ih =>
    cases value with
    | array elements =>
      obtain ⟨-, keyed⟩ := everywhere_array.mp keyed
      have back : ∀ element ∈ elements, Value.ofJson element.toJson = element.datesAsTexts := by
        intro element member
        exact ih element (.element member) (keyed element member)
      have elements_eq : elementsOfJson (elementsToJson elements) = elementsDatesAsTexts elements := by
        rw [elementsToJson_eq_map, elementsOfJson_eq_map, elementsDatesAsTexts_eq_map, List.map_map]
        exact List.map_congr_left back
      rw [toJson, ofJson, datesAsTexts, elements_eq]
    | object entries =>
      obtain ⟨distinct, keyed⟩ := everywhere_object.mp keyed
      have back : ∀ entry ∈ entries,
          (entry.1, Value.ofJson entry.2.toJson) = (entry.1, entry.2.datesAsTexts) := by
        intro entry member
        rw [ih entry.2 (.entry member) (keyed entry member)]
      have entries_eq : entriesOfJson (entriesToJson entries) = entriesDatesAsTexts entries := by
        rw [entriesToJson_eq_map, entriesOfJson_eq_map, entriesDatesAsTexts_eq_map, List.map_map]
        exact List.map_congr_left back
      have keys : Record.keys (entriesDatesAsTexts entries) = Record.keys entries := by
        rw [entriesDatesAsTexts_eq_map, Record.keys, List.map_map]
        rfl
      rw [toJson, ofJson, datesAsTexts, entries_eq, Record.ofEntries_eq_self (keys ▸ distinct entries rfl)]
    | _ => rfl

/-- A value without dates stays as it is. -/
theorem Value.datesAsTexts_eq_self {value : Value} (dateless : value.Dateless) :
    value.datesAsTexts = value := by
  induction value using Value.induction with
  | step value ih =>
    cases value with
    | date t => exact absurd rfl (everywhere_iff.mp dateless).1
    | array elements =>
      obtain ⟨-, dateless⟩ := everywhere_array.mp dateless
      have same : ∀ element ∈ elements, element.datesAsTexts = element :=
        fun element member => ih element (.element member) (dateless element member)
      rw [datesAsTexts, elementsDatesAsTexts_eq_map, List.map_congr_left same, List.map_id']
    | object entries =>
      obtain ⟨-, dateless⟩ := everywhere_object.mp dateless
      have same : ∀ entry ∈ entries, (entry.1, entry.2.datesAsTexts) = entry := by
        intro entry member
        rw [ih entry.2 (.entry member) (dateless entry member)]
      rw [datesAsTexts, entriesDatesAsTexts_eq_map, List.map_congr_left same, List.map_id']
    | _ => rfl

/-- **A value without points in time and repeated keys is read back as itself.** -/
theorem Value.ofJson_toJson {value : Value} (dateless : value.Dateless) (keyed : value.Keyed) :
    Value.ofJson value.toJson = value :=
  (ofJson_toJson_eq_datesAsTexts keyed).trans (datesAsTexts_eq_self dateless)

/-- **What has been read** holds no point in time and repeats no key. -/
theorem Value.ofJson_readable (tree : Json) :
    (Value.ofJson tree).Dateless ∧ (Value.ofJson tree).Keyed := by
  induction tree using Json.induction with
  | step tree ih =>
    cases tree with
    | array elements =>
      have parts : ∀ element ∈ elementsOfJson elements, element.Dateless ∧ element.Keyed := by
        intro element member
        rw [elementsOfJson_eq_map] at member
        obtain ⟨part, listed, rfl⟩ := List.mem_map.mp member
        exact ih part (.element listed)
      refine ⟨everywhere_array.mpr ⟨nofun, ?_⟩, everywhere_array.mpr ⟨nofun, ?_⟩⟩
      · exact fun element member => (parts element member).1
      · exact fun element member => (parts element member).2
    | object entries =>
      have parts : ∀ entry ∈ Record.ofEntries (entriesOfJson entries),
          entry.2.Dateless ∧ entry.2.Keyed := by
        intro entry member
        have read := Record.mem_of_mem_ofEntries member
        rw [entriesOfJson_eq_map] at read
        obtain ⟨part, listed, rfl⟩ := List.mem_map.mp read
        exact ih part.2 (.entry listed)
      refine ⟨everywhere_object.mpr ⟨nofun, ?_⟩, everywhere_object.mpr ⟨?_, ?_⟩⟩
      · exact fun entry member => (parts entry member).1
      · rintro _ ⟨⟩
        exact Record.nodup_keys_ofEntries _
      · exact fun entry member => (parts entry member).2
    | _ =>
      constructor
      · exact everywhere_iff.mpr ⟨nofun, nofun⟩
      · exact everywhere_iff.mpr ⟨nofun, nofun⟩

/-! ## Values that agree -/

/-- A number is the same as itself. -/
theorem Number.same_refl (n : Number) : n.same n = true := by
  cases n <;> simp [same]

/-- Elements are the same if they are the same one by one. -/
theorem sameElements_iff {xs ys : List Value} :
    sameElements xs ys = true ↔ List.Forall₂ (fun x y => x.same y = true) xs ys := by
  induction xs generalizing ys with
  | nil => cases ys <;> simp [sameElements]
  | cons x xs ih => cases ys <;> simp [sameElements, ih]

/-- Entries are the same as those of a record if the record has the same under each key. -/
theorem sameEntries_iff {xs : List (String × Value)} {ys : Record} :
    sameEntries xs ys = true
      ↔ ∀ x ∈ xs, ∃ y, Record.get? ys x.1 = some y ∧ x.2.same y = true := by
  induction xs with
  | nil => simp [sameEntries]
  | cons x xs ih =>
    obtain ⟨key, value⟩ := x
    cases found : Record.get? ys key <;> simp [sameEntries, found, ih]

/-- A value that repeats no key agrees with itself. -/
theorem Value.same_refl {value : Value} (keyed : value.Keyed) : value.same value = true := by
  induction value using Value.induction with
  | step value ih =>
    cases value with
    | number n => exact Number.same_refl n
    | array elements =>
      obtain ⟨-, keyed⟩ := everywhere_array.mp keyed
      rw [same, sameElements_iff, List.forall₂_same]
      intro element member
      exact ih element (.element member) (keyed element member)
    | object entries =>
      obtain ⟨distinct, keyed⟩ := everywhere_object.mp keyed
      rw [same, beq_self_eq_true, Bool.true_and, sameEntries_iff]
      intro entry member
      refine ⟨entry.2, Record.get?_of_mem (distinct entries rfl) member, ?_⟩
      exact ih entry.2 (.entry member) (keyed entry member)
    | _ => simp [same]

/-- Values that agree hold points in time at the same places. -/
theorem Value.Dateless.of_same {value other : Value} (dateless : other.Dateless)
    (agree : value.same other = true) : value.Dateless := by
  induction value using Value.induction generalizing other with
  | step value ih =>
    cases value with
    | date t =>
      cases other with
      | date t' => exact absurd rfl (everywhere_iff.mp dateless).1
      | _ => cases agree
    | array elements =>
      cases other with
      | array others =>
        obtain ⟨-, dateless⟩ := everywhere_array.mp dateless
        rw [same, sameElements_iff] at agree
        refine everywhere_array.mpr ⟨nofun, ?_⟩
        intro element member
        obtain ⟨partner, listed, agree⟩ := exists_mem_of_forall₂ agree.flip member
        exact ih element (.element member) (dateless partner listed) agree
      | _ => cases agree
    | object entries =>
      cases other with
      | object others =>
        obtain ⟨-, dateless⟩ := everywhere_object.mp dateless
        rw [same, Bool.and_eq_true, sameEntries_iff] at agree
        refine everywhere_object.mpr ⟨nofun, ?_⟩
        intro entry member
        obtain ⟨partner, found, agree⟩ := agree.2 entry member
        have listed := Record.mem_of_get? found
        exact ih entry.2 (.entry member) (dateless _ listed) agree
      | _ => cases agree
    | _ => exact everywhere_iff.mpr ⟨nofun, nofun⟩

end Intake
