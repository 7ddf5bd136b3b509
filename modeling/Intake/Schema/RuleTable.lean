import Intake.Value.Basic

/-!
# Rule tables

The rule parameters of a schema: at most one for each rule key, in the order of the keys. Strings
are ordered by their characters, which is also the order of their encodings as bytes. The order is
part of the type, so two tables with the same parameters are equal.
-/

set_option autoImplicit false

namespace Intake

/-- Rule parameters in the order of their keys. -/
structure RuleTable where
  /-- The keys with their parameters. -/
  entries : List (String × Value)
  /-- The keys strictly increase. -/
  sorted : entries.Pairwise (fun a b => a.1 < b.1)

namespace RuleTable

/-- No parameters. -/
def empty : RuleTable := ⟨[], List.Pairwise.nil⟩

/-- Sets a parameter in a list sorted by key. -/
def insertSorted (key : String) (param : Value) : List (String × Value) → List (String × Value)
  | [] => [(key, param)]
  | (k, p) :: rest =>
    if key < k then (key, param) :: (k, p) :: rest
    else if k < key then (k, p) :: insertSorted key param rest
    else (key, param) :: rest

/-- An entry of the extended list is the new one or was there before. -/
theorem mem_insertSorted {key : String} {param : Value} {entries : List (String × Value)}
    {entry : String × Value} (h : entry ∈ insertSorted key param entries) :
    entry = (key, param) ∨ entry ∈ entries := by
  induction entries with
  | nil => simpa [insertSorted] using h
  | cons head rest ih =>
    obtain ⟨k, p⟩ := head
    simp only [insertSorted] at h
    split at h
    · simpa using h
    · split at h
      · rcases List.mem_cons.1 h with h | h
        · exact Or.inr (by simp [h])
        · exact (ih h).imp id (List.mem_cons_of_mem _)
      · rcases List.mem_cons.1 h with h | h
        · exact Or.inl h
        · exact Or.inr (List.mem_cons_of_mem _ h)

/-- Setting a parameter keeps the keys sorted. -/
theorem pairwise_insertSorted (key : String) (param : Value) {entries : List (String × Value)}
    (sorted : entries.Pairwise (fun a b => a.1 < b.1)) :
    (insertSorted key param entries).Pairwise (fun a b => a.1 < b.1) := by
  induction entries with
  | nil => simp [insertSorted]
  | cons head rest ih =>
    obtain ⟨k, p⟩ := head
    obtain ⟨first, others⟩ := List.pairwise_cons.1 sorted
    simp only [insertSorted]
    split
    · rename_i less
      refine List.pairwise_cons.2 ⟨fun entry h => ?_, sorted⟩
      rcases List.mem_cons.1 h with rfl | h
      · exact less
      · exact String.lt_trans less (first entry h)
    · split
      · rename_i greater
        refine List.pairwise_cons.2 ⟨fun entry h => ?_, ih others⟩
        rcases mem_insertSorted h with rfl | h
        · exact greater
        · exact first entry h
      · rename_i notLess notGreater
        have same : k = key := String.le_antisymm notLess notGreater
        exact List.pairwise_cons.2 ⟨fun entry h => same ▸ first entry h, others⟩

/-- Sets the parameter of a rule key. -/
def insert (table : RuleTable) (key : String) (param : Value) : RuleTable :=
  ⟨insertSorted key param table.entries, pairwise_insertSorted key param table.sorted⟩

/-- The table of a list of parameters; the last one of a repeated key counts. -/
def ofList (entries : List (String × Value)) : RuleTable :=
  entries.foldl (fun table (key, param) => table.insert key param) empty

end RuleTable

end Intake
