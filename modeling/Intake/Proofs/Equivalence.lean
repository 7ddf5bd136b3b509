import Intake.Proofs.ValueTrees

/-!
# Equivalence of values

Among values that repeat no key, equivalence is an equivalence relation (`equivalent_equivalence`). For
scalars this is so because they are equivalent exactly if they have the same key
(`Value.equivalent_iff_of_scalarKey?`). Composites are compared part by part. The comparison of two
records only goes through the entries of the first one; that there are no others in the second one is
known because both have as many entries and no key twice (`Record.keys_perm`). So it does not matter on
which side a record stands, nor in which order its entries do.
-/

set_option autoImplicit false

namespace Intake

/-! ## Records of the same keys -/

namespace Record

variable {record other : Record}

/-- If a record has the keys of another one and is no longer, it has no further keys. -/
theorem keys_perm (distinct : (keys record).Nodup) (length : record.length = other.length)
    (held : ∀ entry ∈ record, ∃ value, get? other entry.1 = some value) :
    (keys record).Perm (keys other) := by
  have subset : keys record ⊆ keys other := by
    intro key member
    obtain ⟨entry, listed, rfl⟩ := List.mem_map.mp member
    obtain ⟨value, found⟩ := held entry listed
    exact List.mem_map.mpr ⟨_, mem_of_get? found, rfl⟩
  have lengths : (keys other).length ≤ (keys record).length := by
    simp [keys, length]
  exact (List.subperm_of_subset distinct subset).perm_of_length_le lengths

/-- In a record without repeated keys a key has what stands with it. -/
theorem get?_eq_some_iff (distinct : (keys record).Nodup) {key : String} {value : Value} :
    get? record key = some value ↔ (key, value) ∈ record :=
  ⟨mem_of_get?, get?_of_mem distinct⟩

/-- Nothing is found otherwise if the entries of a record are reordered. -/
theorem get?_perm (distinct : (keys record).Nodup) (perm : record.Perm other) (key : String) :
    get? record key = get? other key := by
  have distinct' : (keys other).Nodup := (perm.map Prod.fst).nodup_iff.mp distinct
  apply Option.ext
  intro value
  rw [get?_eq_some_iff distinct, get?_eq_some_iff distinct', perm.mem_iff]

end Record

/-! ## Composites -/

/-- Elements are equivalent if there are equally many and they are equivalent one by one. -/
theorem equivalentElements_iff {xs ys : List Value} :
    equivalentElements xs ys = true ↔ xs.length = ys.length ∧
      ∀ (i : ℕ) (left : i < xs.length) (right : i < ys.length), xs[i].equivalent ys[i] = true := by
  have pairs : equivalentElements xs ys = true
      ↔ List.Forall₂ (fun x y => x.equivalent y = true) xs ys := by
    induction xs generalizing ys with
    | nil => cases ys <;> simp [equivalentElements]
    | cons x xs ih => cases ys <;> simp [equivalentElements, ih]
  rw [pairs, List.forall₂_iff_get]
  rfl

/-- Entries are equivalent to those of a record if the record has an equivalent value under each key. -/
theorem equivalentEntries_iff {xs : List (String × Value)} {ys : Record} :
    equivalentEntries xs ys = true
      ↔ ∀ x ∈ xs, ∃ y, Record.get? ys x.1 = some y ∧ x.2.equivalent y = true := by
  induction xs with
  | nil => simp [equivalentEntries]
  | cons x xs ih =>
    obtain ⟨key, value⟩ := x
    cases found : Record.get? ys key <;> simp [equivalentEntries, found, ih]

namespace Value

variable {a b c : Value}

/-- Equivalent to an array are the arrays with equivalent elements. -/
theorem equivalent_array_iff {elements : List Value} :
    (array elements).equivalent b = true ↔ ∃ others, b = array others ∧
      elements.length = others.length ∧
        ∀ (i : ℕ) (left : i < elements.length) (right : i < others.length),
          elements[i].equivalent others[i] = true := by
  cases b <;> simp [equivalent, same, equivalentElements_iff]

/-- Equivalent to an object are the objects of the same size with equivalent values under its keys. -/
theorem equivalent_object_iff {entries : Record} :
    (object entries).equivalent b = true ↔ ∃ others : Record, b = object others ∧
      entries.length = others.length ∧
        ∀ entry ∈ entries, ∃ value, Record.get? others entry.1 = some value ∧
          entry.2.equivalent value = true := by
  cases b <;> simp [equivalent, same, equivalentEntries_iff]

/-! ## Scalars -/

/-- **A scalar is equivalent to the values that have its key**, all of which are scalars. -/
theorem equivalent_iff_of_scalarKey? {key : ScalarKey} (scalar : a.scalarKey? = some key) :
    a.equivalent b = true ↔ b.scalarKey? = some key := by
  cases a <;> cases scalar <;> cases b <;> simp [equivalent, same, scalarKey?] <;> exact eq_comm

/-- What is no scalar is an array or a record. -/
theorem scalarKey?_eq_none_iff :
    a.scalarKey? = none ↔ (∃ elements, a = array elements) ∨ ∃ entries, a = object entries := by
  cases a <;> simp [scalarKey?]

/-- A composite is equivalent to composites only. -/
theorem scalarKey?_of_equivalent (same : a.equivalent b = true) : b.scalarKey? = a.scalarKey? := by
  cases scalar : a.scalarKey? with
  | some key => exact (equivalent_iff_of_scalarKey? scalar).mp same
  | none =>
    rcases scalarKey?_eq_none_iff.mp scalar with ⟨elements, rfl⟩ | ⟨entries, rfl⟩
    · obtain ⟨others, rfl, -⟩ := equivalent_array_iff.mp same
      rfl
    · obtain ⟨others, rfl, -⟩ := equivalent_object_iff.mp same
      rfl

/-! ## The laws of an equivalence relation -/

/-- Every value is equivalent to itself: by induction on the value. -/
theorem equivalent_refl (keyed : a.Keyed) : a.equivalent a = true := by
  induction a using Value.induction with
  | step a ih =>
    cases scalar : a.scalarKey? with
    | some key => exact (equivalent_iff_of_scalarKey? scalar).mpr scalar
    | none =>
      rcases scalarKey?_eq_none_iff.mp scalar with ⟨elements, rfl⟩ | ⟨entries, rfl⟩
      · obtain ⟨-, keyed⟩ := everywhere_array.mp keyed
        refine equivalent_array_iff.mpr ⟨elements, rfl, rfl, ?_⟩
        intro i here _
        have member : elements[i] ∈ elements := List.getElem_mem here
        exact ih elements[i] (.element member) (keyed elements[i] member)
      · obtain ⟨distinct, keyed⟩ := everywhere_object.mp keyed
        refine equivalent_object_iff.mpr ⟨entries, rfl, rfl, ?_⟩
        intro entry member
        have found := Record.get?_of_mem (distinct entries rfl) member
        exact ⟨entry.2, found, ih entry.2 (.entry member) (keyed entry member)⟩

/-- Equivalence does not depend on the order of the two values: by induction on the first. -/
theorem equivalent_symm (keyed : a.Keyed) (keyed' : b.Keyed) (same : a.equivalent b = true) :
    b.equivalent a = true := by
  induction a using Value.induction generalizing b with
  | step a ih =>
    cases scalar : a.scalarKey? with
    | some key =>
      have scalar' : b.scalarKey? = some key := (scalarKey?_of_equivalent same).trans scalar
      exact (equivalent_iff_of_scalarKey? scalar').mpr scalar
    | none =>
      rcases scalarKey?_eq_none_iff.mp scalar with ⟨elements, rfl⟩ | ⟨entries, rfl⟩
      · obtain ⟨others, rfl, length, pairs⟩ := equivalent_array_iff.mp same
        obtain ⟨-, keyed⟩ := everywhere_array.mp keyed
        obtain ⟨-, keyed'⟩ := everywhere_array.mp keyed'
        refine equivalent_array_iff.mpr ⟨elements, rfl, length.symm, ?_⟩
        intro i there here
        have member : elements[i] ∈ elements := List.getElem_mem here
        have listed : others[i] ∈ others := List.getElem_mem there
        exact ih elements[i] (.element member) (keyed _ member) (keyed' _ listed) (pairs i here there)
      · obtain ⟨others, rfl, length, held⟩ := equivalent_object_iff.mp same
        obtain ⟨distinct, keyed⟩ := everywhere_object.mp keyed
        obtain ⟨distinct', keyed'⟩ := everywhere_object.mp keyed'
        have perm := Record.keys_perm (distinct entries rfl) length fun entry member =>
          (held entry member).imp fun _ partner => partner.1
        refine equivalent_object_iff.mpr ⟨entries, rfl, length.symm, ?_⟩
        intro other listed
        obtain ⟨entry, member, key⟩ := List.mem_map.mp (perm.mem_iff.mpr (List.mem_map_of_mem listed))
        obtain ⟨value, found, same⟩ := held entry member
        have partner : value = other.2 := by
          have here := Record.get?_of_mem (distinct' others rfl) listed
          rw [← key, found] at here
          exact Option.some.inj here
        subst partner
        refine ⟨entry.2, ?_, ?_⟩
        · rw [← key]
          exact Record.get?_of_mem (distinct entries rfl) member
        · exact ih entry.2 (.entry member) (keyed entry member) (keyed' other listed) same

/-- Values that are equivalent to one value are equivalent: by induction on the first. -/
theorem equivalent_trans (first : a.equivalent b = true) (second : b.equivalent c = true) :
    a.equivalent c = true := by
  induction a using Value.induction generalizing b c with
  | step a ih =>
    cases scalar : a.scalarKey? with
    | some key =>
      have last : c.scalarKey? = a.scalarKey? :=
        (scalarKey?_of_equivalent second).trans (scalarKey?_of_equivalent first)
      exact (equivalent_iff_of_scalarKey? scalar).mpr (last.trans scalar)
    | none =>
      rcases scalarKey?_eq_none_iff.mp scalar with ⟨elements, rfl⟩ | ⟨entries, rfl⟩
      · obtain ⟨others, rfl, length, pairs⟩ := equivalent_array_iff.mp first
        obtain ⟨lasts, rfl, length', pairs'⟩ := equivalent_array_iff.mp second
        refine equivalent_array_iff.mpr ⟨lasts, rfl, length.trans length', ?_⟩
        intro i here there
        have between : i < others.length := length ▸ here
        have member : elements[i] ∈ elements := List.getElem_mem here
        exact ih elements[i] (.element member) (pairs i here between) (pairs' i between there)
      · obtain ⟨others, rfl, length, held⟩ := equivalent_object_iff.mp first
        obtain ⟨lasts, rfl, length', held'⟩ := equivalent_object_iff.mp second
        refine equivalent_object_iff.mpr ⟨lasts, rfl, length.trans length', ?_⟩
        intro entry member
        obtain ⟨value, found, same⟩ := held entry member
        obtain ⟨last, found', same'⟩ := held' (entry.1, value) (Record.mem_of_get? found)
        exact ⟨last, found', ih entry.2 (.entry member) same same'⟩

/-! ## The order of entries -/

/-- The order of the entries on the left does not matter. -/
theorem equivalent_object_congr {entries entries' : Record} (perm : entries.Perm entries') (b : Value) :
    (object entries).equivalent b = (object entries').equivalent b := by
  rw [Bool.eq_iff_iff, equivalent_object_iff, equivalent_object_iff, perm.length_eq]
  simp only [perm.mem_iff]

/-- The order of the entries on the right does not matter. -/
theorem object_equivalent_congr {entries entries' : Record} (distinct : (Record.keys entries).Nodup)
    (perm : entries.Perm entries') (b : Value) :
    b.equivalent (object entries) = b.equivalent (object entries') := by
  cases b with
  | object others =>
    have alike : equivalentEntries others entries = equivalentEntries others entries' := by
      rw [Bool.eq_iff_iff, equivalentEntries_iff, equivalentEntries_iff]
      simp only [Record.get?_perm distinct perm]
    rw [equivalent, equivalent, alike, perm.length_eq]
  | _ => rfl

end Value

/-- The values that occur: no record in them repeats a key. -/
abbrev KeyedValue := {value : Value // value.Keyed}

/-- **Equivalence is an equivalence relation** on values that repeat no key. It does not matter which of
two values is asked about the other one, and the order of the entries of a record does not matter on
either side. -/
theorem equivalent_equivalence :
    Equivalence (fun a b : KeyedValue => a.1.equivalent b.1 = true) ∧
      (∀ a b : KeyedValue, a.1.equivalent b.1 = b.1.equivalent a.1) ∧
      ∀ (entries entries' : Record) (b : Value), (Record.keys entries).Nodup → entries.Perm entries' →
        (Value.object entries).equivalent b = (Value.object entries').equivalent b ∧
          b.equivalent (.object entries) = b.equivalent (.object entries') := by
  have symm (a b : KeyedValue) (same : a.1.equivalent b.1 = true) : b.1.equivalent a.1 = true :=
    Value.equivalent_symm a.2 b.2 same
  refine ⟨⟨?_, ?_, ?_⟩, ?_, ?_⟩
  · exact fun a => Value.equivalent_refl a.2
  · exact fun same => symm _ _ same
  · exact fun first second => Value.equivalent_trans first second
  · intro a b
    rw [Bool.eq_iff_iff]
    exact ⟨symm a b, symm b a⟩
  · intro entries entries' b distinct perm
    exact ⟨Value.equivalent_object_congr perm b, Value.object_equivalent_congr distinct perm b⟩

/-- Two apples of sizes one and "1". -/
def basket : Record :=
  [("apples", Value.ofInt 2), ("sizes", .array [Value.ofInt 1, .string "1"])]

/-- The same basket in other words: its entries are turned round, and its numbers are doubles. -/
def basketOfDoubles : Value :=
  .object [("sizes", .array [Value.ofDouble (Double.ofInt? 1), .string "1"]),
    ("apples", Value.ofDouble (Double.ofInt? 2))]

/-- A basket is the same in either order, whatever side it stands on. -/
theorem basket_equivalent :
    (Record.keys basket).Nodup ∧ basket.Perm basket.reverse ∧
      (Value.object basket).equivalent basketOfDoubles = true ∧
      (Value.object basket.reverse).equivalent basketOfDoubles = true ∧
      basketOfDoubles.equivalent (.object basket) = basketOfDoubles.equivalent (.object basket.reverse) := by
  have distinct : (Record.keys basket).Nodup := by decide
  have perm : basket.Perm basket.reverse := (List.reverse_perm basket).symm
  have same : (Value.object basket).equivalent basketOfDoubles = true := by decide +kernel
  obtain ⟨left, right⟩ := equivalent_equivalence.2.2 basket basket.reverse basketOfDoubles distinct perm
  exact ⟨distinct, perm, same, left ▸ same, right⟩

end Intake
