import Intake.Value.Basic

/-!
# Records

Look-up and insertion in records, and the record of the key-value pairs of a query string or a
form. Main statements: a value that has been set is found at its key (`get?_insert_self`), no other
key changes (`get?_insert_of_ne`), a new key goes to the end, and one that is present keeps its place
(`keys_insert`).
-/

set_option autoImplicit false

namespace Intake.Record

/-- The value at a key. -/
def get? (record : Record) (key : String) : Option Value :=
  record.lookup key

/-- The keys of a record, in order. -/
def keys (record : Record) : List String :=
  record.map Prod.fst

/-- Sets the value at a key: in place if the key is present, else at the end. -/
def insert : Record → String → Value → Record
  | [], key, value => [(key, value)]
  | (k, v) :: rest, key, value =>
    if k = key then (key, value) :: rest else (k, v) :: insert rest key value

/-- The record of a list of entries: a repeated key has its first place and its last value. -/
def ofEntries (entries : List (String × Value)) : Record :=
  entries.foldl (fun record (key, value) => insert record key value) []

/-- Adds one more text at a key. The first text at a key is a string, and further ones make an array
of it. -/
def addText (record : Record) (key text : String) : Record :=
  match get? record key with
  | none => insert record key (.string text)
  | some (.array texts) => insert record key (.array (texts ++ [.string text]))
  | some first => insert record key (.array [first, .string text])

/-- The record of key-value pairs as they arrive: a key that repeats collects its texts into an
array. -/
def ofPairs (pairs : List (String × String)) : Record :=
  pairs.foldl (fun record (key, text) => addText record key text) []

/-- Looking at the first entry. -/
theorem get?_cons (k key : String) (v : Value) (rest : Record) :
    get? ((k, v) :: rest) key = if k = key then some v else get? rest key := by
  rw [get?, List.lookup_cons, ← get?]
  by_cases same : k = key
  · simp [same]
  · have : (key == k) = false := by simpa using fun h : key = k => same h.symm
    rw [this, if_neg same]

/-- A value that has been set is found at its key. -/
@[simp] theorem get?_insert_self (record : Record) (key : String) (value : Value) :
    get? (insert record key value) key = some value := by
  induction record with
  | nil => simp [insert, get?_cons]
  | cons entry rest ih =>
    obtain ⟨k, v⟩ := entry
    by_cases same : k = key
    · simp [insert, same, get?_cons]
    · simp [insert, same, get?_cons, ih]

/-- Setting a value changes no other key. -/
theorem get?_insert_of_ne (record : Record) {key other : String} (value : Value)
    (different : other ≠ key) : get? (insert record key value) other = get? record other := by
  induction record with
  | nil => simp [insert, get?, different]
  | cons entry rest ih =>
    obtain ⟨k, v⟩ := entry
    by_cases same : k = key
    · subst same
      simp [insert, get?_cons, different.symm]
    · simp [insert, same, get?_cons, ih]

/-- A new key goes to the end, and a key that is present keeps its place. -/
theorem keys_insert (record : Record) (key : String) (value : Value) :
    keys (insert record key value)
      = if key ∈ keys record then keys record else keys record ++ [key] := by
  induction record with
  | nil => simp [insert, keys]
  | cons entry rest ih =>
    obtain ⟨k, v⟩ := entry
    by_cases same : k = key
    · simp [insert, same, keys]
    · have tail : (insert rest key value).map Prod.fst = keys (insert rest key value) := rfl
      by_cases present : key ∈ keys rest
      · rw [if_pos present] at ih
        have : key ∈ keys ((k, v) :: rest) := List.mem_cons_of_mem _ present
        rw [if_pos this, insert, if_neg same, keys, List.map_cons, tail, ih]
        rfl
      · rw [if_neg present] at ih
        have : key ∉ keys ((k, v) :: rest) := by
          simpa [keys, present, Ne.symm same] using present
        rw [if_neg this, insert, if_neg same, keys, List.map_cons, tail, ih]
        rfl

end Intake.Record
