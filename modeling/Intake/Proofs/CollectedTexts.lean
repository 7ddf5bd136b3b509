import Intake.Proofs.ValueTrees

/-!
# Texts that are collected at their keys

Pairs of a key and a text arrive one after the other, and a record collects them. What it holds at a key
depends on the texts that have arrived at that key and on nothing else: a single text is a string, and
several are an array of strings in the order of their arrival (`collected`). One more pair adds its text at
its own key, whether that is new, holds a string or holds an array, and leaves all other keys alone
(`get?_addText`). So by induction on the pairs that have arrived, the last one first, the record holds the
texts of each key, and its keys stand in the order in which each arrived first (`texts_collected`).
-/

set_option autoImplicit false

namespace Intake.Record

variable {record : Record} {pairs : List (String × String)} {key other text : String}
  {texts : List String}

/-- The texts that arrive at a key, in order. -/
def textsAt (pairs : List (String × String)) (key : String) : List String :=
  (pairs.filter fun pair => pair.1 = key).map Prod.snd

/-- What is held where texts have arrived: nothing without any, a string for one, and for several the
array of them. -/
def collected : List String → Option Value
  | [] => none
  | [text] => some (.string text)
  | texts => some (.array (texts.map .string))

/-! ## One more pair -/

/-- One more pair adds its text under its key and none under other keys. -/
theorem textsAt_concat (pairs : List (String × String)) (key text other : String) :
    textsAt (pairs ++ [(key, text)]) other
      = textsAt pairs other ++ if key = other then [text] else [] := by
  by_cases same : key = other <;> simp [textsAt, same]

/-- Whatever the value at its key, one more text is an insertion there. -/
theorem addText_eq_insert (record : Record) (key text : String) :
    ∃ value, addText record key text = insert record key value := by
  unfold addText
  split
  · exact ⟨_, rfl⟩
  · exact ⟨_, rfl⟩
  · exact ⟨_, rfl⟩

/-- To add a text under a key adds the key, unless it is there. -/
theorem keys_addText (record : Record) (key text : String) :
    keys (addText record key text) = if key ∈ keys record then keys record else keys record ++ [key] := by
  obtain ⟨value, added⟩ := addText_eq_insert record key text
  rw [added, keys_insert]

/-- A text is added to those that its key holds. -/
theorem get?_addText_self (held : get? record key = collected texts) :
    get? (addText record key text) key = collected (texts ++ [text]) := by
  match texts with
  | [] => simp [addText, held, collected]
  | [first] => simp [addText, held, collected]
  | first :: second :: rest => simp [addText, held, collected]

/-- **One more pair** changes what is held at its own key only. -/
theorem get?_addText (held : get? record other = collected texts) :
    get? (addText record key text) other
      = collected (texts ++ if key = other then [text] else []) := by
  by_cases same : key = other
  · subst same
    rw [if_pos rfl, get?_addText_self held]
  · obtain ⟨value, added⟩ := addText_eq_insert record key text
    rw [if_neg same, List.append_nil, added, get?_insert_of_ne record value (Ne.symm same), held]

/-! ## All pairs -/

/-- One more pair is one more text that is added. -/
theorem ofPairs_concat (pairs : List (String × String)) (key text : String) :
    ofPairs (pairs ++ [(key, text)]) = addText (ofPairs pairs) key text := by
  simp [ofPairs]

/-- Under each key there are the texts of its pairs, collected. -/
theorem get?_ofPairs (pairs : List (String × String)) (key : String) :
    get? (ofPairs pairs) key = collected (textsAt pairs key) := by
  induction pairs using List.reverseRecOn with
  | nil => rfl
  | append_singleton pairs pair ih =>
    obtain ⟨arrived, text⟩ := pair
    rw [ofPairs_concat, textsAt_concat, get?_addText ih]

/-- The keys come in the order in which they first occur in the pairs. -/
theorem keys_ofPairs (pairs : List (String × String)) :
    keys (ofPairs pairs) = (pairs.map Prod.fst).eraseDups := by
  induction pairs using List.reverseRecOn with
  | nil => rfl
  | append_singleton pairs pair ih =>
    obtain ⟨key, text⟩ := pair
    rw [ofPairs_concat, keys_addText, ih, List.map_append, List.eraseDups_append]
    -- A key that has arrived before is not listed again.
    by_cases old : key ∈ pairs.map Prod.fst
    · simp [old, List.removeAll]
    · simp [old, List.removeAll, List.eraseDups_cons]

/-- No key is repeated, however often it occurs in the pairs. -/
theorem nodup_keys_ofPairs (pairs : List (String × String)) : (keys (ofPairs pairs)).Nodup := by
  induction pairs using List.reverseRecOn with
  | nil => exact List.nodup_nil
  | append_singleton pairs pair ih =>
    obtain ⟨key, text⟩ := pair
    obtain ⟨value, added⟩ := addText_eq_insert (ofPairs pairs) key text
    rw [ofPairs_concat, added]
    exact nodup_keys_insert ih key value

/-- **Texts are collected at their keys.** The keys of the record are those that have arrived, each once and
in the order of first arrival. A key at which one text has arrived holds that string, and one at which
several have arrived holds the array of these strings in the order of their arrival. -/
theorem texts_collected (pairs : List (String × String)) :
    keys (ofPairs pairs) = (pairs.map Prod.fst).eraseDups ∧
      (keys (ofPairs pairs)).Nodup ∧
      ∀ key, get? (ofPairs pairs) key =
        match textsAt pairs key with
        | [] => none
        | [text] => some (.string text)
        | texts => some (.array (texts.map .string)) :=
  ⟨keys_ofPairs pairs, nodup_keys_ofPairs pairs, get?_ofPairs pairs⟩

/-- Three tags and a page that arrives between them. -/
example : ofPairs [("tag", "a"), ("page", "2"), ("tag", "b"), ("tag", "a")]
    = [("tag", .array [.string "a", .string "b", .string "a"]), ("page", .string "2")] := by
  rfl

end Intake.Record
