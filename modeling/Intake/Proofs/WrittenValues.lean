import Intake.Proofs.JsonTexts
import Intake.Proofs.ValueTrees
import Intake.Types.Coercion

/-!
# Values in writing

A value has one JSON text, whether it is written directly or by way of its tree (`Value.text_toJson`), and
it is shown as this text, except that strings and points in time are shown bare (`renderings_agree`). The
string that a composite value is taken as is this text too. Reading the text gives the tree back if the
numbers in the value are integers and the value is no deeper than the reader goes (`Value.plain_toJson`),
and the tree gives the value back if it holds no point in time and repeats no key. So the coercions to
arrays and to objects undo the coercion to strings (`written_values_read_back`).
-/

set_option autoImplicit false

namespace Intake

/-! ## Depth -/

mutual

/-- The number of arrays and records that stand inside one another in a value. -/
def Value.depth : Value → ℕ
  | .array elements => depthOfElements elements + 1
  | .object entries => depthOfEntries entries + 1
  | _ => 0

/-- The depth of the deepest element. -/
def depthOfElements : List Value → ℕ
  | [] => 0
  | element :: rest => max element.depth (depthOfElements rest)

/-- The depth of the deepest value of an entry. -/
def depthOfEntries : List (String × Value) → ℕ
  | [] => 0
  | (_, value) :: rest => max value.depth (depthOfEntries rest)

end

/-- An element is no deeper than all elements. -/
theorem depth_le_of_mem_elements {elements : List Value} {element : Value} (member : element ∈ elements) :
    element.depth ≤ depthOfElements elements := by
  induction elements with
  | nil => cases member
  | cons first rest ih =>
    rw [depthOfElements]
    rcases List.mem_cons.mp member with rfl | later
    · exact le_max_left _ _
    · exact (ih later).trans (le_max_right _ _)

/-- What stands under a key is no deeper than all entries. -/
theorem depth_le_of_mem_entries {entries : Record} {entry : String × Value} (member : entry ∈ entries) :
    entry.2.depth ≤ depthOfEntries entries := by
  induction entries with
  | nil => cases member
  | cons first rest ih =>
    rw [depthOfEntries]
    rcases List.mem_cons.mp member with rfl | later
    · exact le_max_left _ _
    · exact (ih later).trans (le_max_right _ _)

/-! ## Trees of integers -/

/-- All numbers within a value are integers. -/
def Value.IntegersOnly : Value → Prop :=
  Everywhere fun inner => ∀ n, inner = .number n → ∃ z fits, n = .integer z fits

/-- A value of integers has a tree of integers of the same depth. -/
theorem Value.plain_toJson {value : Value} (integers : value.IntegersOnly) {depth : ℕ}
    (shallow : value.depth ≤ depth) : Json.Plain depth value.toJson := by
  induction value using Value.induction generalizing depth with
  | step value ih =>
    cases value with
    | null => exact .null
    | bool b => exact .bool b
    | number n =>
      obtain ⟨z, fits, rfl⟩ := (everywhere_iff.mp integers).1 n rfl
      exact .integer fits
    | string s => exact .string s
    | date t => exact .string _
    | array elements =>
      obtain ⟨-, integers⟩ := everywhere_array.mp integers
      obtain ⟨depth, rfl⟩ := Nat.exists_eq_add_one_of_ne_zero (Nat.ne_zero_of_lt shallow)
      rw [toJson, elementsToJson_eq_map]
      apply Json.Plain.array
      intro tree member
      obtain ⟨element, listed, rfl⟩ := List.mem_map.mp member
      have inner := depth_le_of_mem_elements listed
      exact ih element (.element listed) (integers element listed)
        (inner.trans (Nat.le_of_succ_le_succ shallow))
    | object entries =>
      obtain ⟨-, integers⟩ := everywhere_object.mp integers
      obtain ⟨depth, rfl⟩ := Nat.exists_eq_add_one_of_ne_zero (Nat.ne_zero_of_lt shallow)
      rw [toJson, entriesToJson_eq_map]
      apply Json.Plain.object
      intro tree member
      obtain ⟨entry, listed, rfl⟩ := List.mem_map.mp member
      have inner := depth_le_of_mem_entries listed
      exact ih entry.2 (.entry listed) (integers entry listed)
        (inner.trans (Nat.le_of_succ_le_succ shallow))

/-! ## One text -/

/-- The elements of an array are written one by one. -/
theorem serializeElements_eq_map (elements : List Value) :
    serializeElements elements = elements.map Value.serialize := by
  induction elements with
  | nil => rfl
  | cons element rest ih => rw [serializeElements, ih, List.map_cons]

/-- The entries of an object are written one by one, each with its key in quotation marks. -/
theorem serializeEntries_eq_map (entries : List (String × Value)) :
    serializeEntries entries
      = entries.map fun entry => Json.quoted entry.1 ++ ':' :: entry.2.serialize := by
  induction entries with
  | nil => rfl
  | cons entry rest ih => rw [serializeEntries, ih, List.map_cons]

/-- **One text.** Every value is written directly as its tree is written. -/
theorem Value.render_toJson (value : Value) : value.toJson.render = value.serialize := by
  induction value using Value.induction with
  | step value ih =>
    cases value with
    | bool b => cases b <;> rfl
    | array elements =>
      have parts : elements.map (Json.render ∘ toJson) = elements.map serialize :=
        List.map_congr_left fun element member => ih element (.element member)
      rw [toJson, Json.render, serialize, elementsToJson_eq_map, Json.renderAll_eq_map, List.map_map, parts,
        serializeElements_eq_map]
    | object entries =>
      have parts : ∀ entry ∈ entries, Json.quoted entry.1 ++ ':' :: entry.2.toJson.render
          = Json.quoted entry.1 ++ ':' :: entry.2.serialize := by
        intro entry member
        rw [ih entry.2 (.entry member)]
      rw [toJson, Json.render, serialize, entriesToJson_eq_map, Json.renderEntries_eq_map, List.map_map,
        serializeEntries_eq_map]
      exact congrArg (fun texts => '{' :: (Json.commaSeparated texts ++ ['}'])) (List.map_congr_left parts)
    | _ => rfl

/-- The tree of a value is written as the value is. -/
theorem Value.text_toJson (value : Value) : value.toJson.text = String.ofList value.serialize := by
  rw [Json.text, render_toJson]

/-- A value is made again from its tree exactly if it holds no dates. -/
theorem Value.ofJson_toJson_eq_self_iff {value : Value} (keyed : value.Keyed) :
    Value.ofJson value.toJson = value ↔ value.Dateless := by
  constructor
  · intro same
    rw [← same]
    exact (ofJson_readable _).1
  · exact fun dateless => ofJson_toJson dateless keyed

/-- **The renderings of a value agree.** The JSON text of a value is the text of its tree. An array or an
object is shown as this text, and so is any other value except that strings and points in time are shown
without quotes and escapes. What is read from the tree of a value has the string of its text in place of
each point in time and is otherwise the value, so it is the value itself exactly if that holds no point in
time. -/
theorem renderings_agree {value : Value} (keyed : value.Keyed) :
    value.toJson.text = String.ofList value.serialize ∧
      (value.kind ≠ .string → value.kind ≠ .date → value.display = String.ofList value.serialize) ∧
      (∀ s, value = .string s → value.display = s ∧ value.serialize = Json.quoted s) ∧
      (∀ t, value = .date t → value.display = String.ofList t.text ∧
        value.serialize = Json.quoted (String.ofList t.text)) ∧
      Value.ofJson value.toJson = value.datesAsTexts ∧
      (Value.ofJson value.toJson = value ↔ value.Dateless) := by
  refine ⟨value.text_toJson, ?_, ?_, ?_, Value.ofJson_toJson_eq_datesAsTexts keyed,
    Value.ofJson_toJson_eq_self_iff keyed⟩
  · intro unquoted undated
    cases value with
    | string s => exact absurd rfl unquoted
    | date t => exact absurd rfl undated
    | bool b => cases b <;> rfl
    | array elements => exact Value.text_toJson _
    | object entries => exact Value.text_toJson _
    | _ => rfl
  · rintro s rfl
    exact ⟨rfl, rfl⟩
  · rintro t rfl
    exact ⟨rfl, rfl⟩

/-- Half past noon on the first of March 2024. -/
def springNoon : Instant := ⟨1709296200, 0, by decide⟩

/-- A record with points in time and a string that needs escapes, one of them in an array. -/
def logbook : Record :=
  [("since", .date springNoon), ("entries", .array [.object [("at", .date springNoon)], .string "\"\\"])]

/-- The logbook is shown as its JSON text and read back with strings for its points in time. -/
theorem logbook_rendered :
    let value : Value := .object logbook
    let noon : Value := .string "2024-03-01T12:30:00Z"
    value.Keyed ∧ value.toJson.text = String.ofList value.serialize ∧
      value.display = String.ofList value.serialize ∧
      Value.ofJson value.toJson = .object
        [("since", noon), ("entries", .array [.object [("at", noon)], .string "\"\\"])] ∧
      Value.ofJson value.toJson ≠ value := by
  intro value noon
  have keyed : value.Keyed := by
    simp [value, Value.Keyed, logbook, Value.everywhere_object, Value.everywhere_array,
      Value.everywhere_atom, Value.kind, Record.keys]
  have dated : ¬value.Dateless := by
    simp [value, Value.Dateless, logbook, Value.everywhere_object, Value.everywhere_array,
      Value.everywhere_atom, Value.kind]
  have text : String.ofList springNoon.text = "2024-03-01T12:30:00Z" := by decide +kernel
  obtain ⟨tree, shown, -, -, back, same⟩ := renderings_agree keyed
  refine ⟨keyed, tree, shown (by simp [value, Value.kind]) (by simp [value, Value.kind]), ?_, mt same.mp dated⟩
  rw [back]
  simp only [value, logbook, Value.datesAsTexts, entriesDatesAsTexts, elementsDatesAsTexts, text, noon]

/-! ## Reading what was written -/

/-- The text of a value of integers is read as its tree. -/
theorem Value.read?_serialize {value : Value} (integers : value.IntegersOnly)
    (shallow : value.depth ≤ Json.maxDepth) :
    Json.read? (String.ofList value.serialize) = some value.toJson := by
  rw [← text_toJson]
  exact Json.read?_text (plain_toJson integers shallow)

/-- **What is written is read back.** A value that holds no point in time, repeats no key, has integers for
its numbers and is at most 127 levels deep is read back from its JSON text as itself, its order of keys and
its representation of numbers included. The string that an array or an object is taken as is this text, and
the coercion to its own type undoes the one to strings. -/
theorem written_values_read_back {value : Value} (dateless : value.Dateless) (keyed : value.Keyed)
    (integers : value.IntegersOnly) (shallow : value.depth ≤ 127) :
    let text := String.ofList value.serialize
    value.toJson.text = text ∧ (Json.read? text).map Value.ofJson = some value ∧
      (∀ elements, value = .array elements →
        Coercion.string value = .ok (.string text) ∧ Coercion.array (.string text) = .ok value) ∧
      ∀ entries, value = .object entries →
        Coercion.string value = .ok (.string text) ∧ Coercion.object (.string text) = .ok value := by
  intro text
  have read : Json.read? text = some value.toJson := Value.read?_serialize integers shallow
  have back : Value.ofJson value.toJson = value := Value.ofJson_toJson dateless keyed
  have unpacked : Coercion.unpacked (.string text) = value := by
    simp only [Coercion.unpacked, read, back]
  refine ⟨value.text_toJson, by rw [read, Option.map_some, back], ?_, ?_⟩
  · rintro elements rfl
    have shown : Coercion.string (.array elements)
        = .ok (.string (Value.array elements).toJson.text) := rfl
    refine ⟨by rw [shown, Value.text_toJson], ?_⟩
    rw [Coercion.array, unpacked]
  · rintro entries rfl
    have shown : Coercion.string (.object entries)
        = .ok (.string (Value.object entries).toJson.text) := rfl
    refine ⟨by rw [shown, Value.text_toJson], ?_⟩
    rw [Coercion.object, unpacked]

/-- A record of extreme integers, empty parts, and keys and strings that need each sort of escape. -/
def ledger : Record :=
  [("quote \" and \\ and \n", .array [.number (.integer (-0x8000000000000000) (by decide)), .array [],
      .object [], .number (.integer 0xFFFFFFFFFFFFFFFF (by decide))]),
    ("", .object [("\x01\x1f\x7f", .bool false), ("é😀\u2028", .null)]),
    ("]\x7d", .string "\x00[1,\t\x7b\"a\":2\x7d\x08\x0c\r/")]

/-- The ledger is read back from the string that it is taken as. -/
theorem ledger_read_back :
    let value : Value := .object ledger
    let text := String.ofList value.serialize
    value.Dateless ∧ value.Keyed ∧ value.IntegersOnly ∧ value.depth = 3 ∧
      Coercion.string value = .ok (.string text) ∧ Coercion.object (.string text) = .ok value ∧
      (Json.read? text).map Value.ofJson = some value := by
  intro value text
  have dateless : value.Dateless := by
    simp [value, Value.Dateless, ledger, Value.everywhere_object, Value.everywhere_array,
      Value.everywhere_atom, Value.kind]
  have keyed : value.Keyed := by
    simp [value, Value.Keyed, ledger, Value.everywhere_object, Value.everywhere_array,
      Value.everywhere_atom, Value.kind, Record.keys]
  have integers : value.IntegersOnly := by
    simp [value, Value.IntegersOnly, ledger, Value.everywhere_object, Value.everywhere_array,
      Value.everywhere_atom, Value.kind]
  have depth : value.depth = 3 := by decide
  obtain ⟨-, read, -, object⟩ := written_values_read_back dateless keyed integers (by omega)
  obtain ⟨shown, taken⟩ := object ledger rfl
  exact ⟨dateless, keyed, integers, depth, shown, taken, read⟩

end Intake
