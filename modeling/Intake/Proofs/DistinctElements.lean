import Intake.Proofs.Equivalence
import Intake.Proofs.Filters

/-!
# Distinct elements

The search for repeated elements looks scalars up by their keys and compares composites with composites
only. It finds what a comparison of each element with all elements before it would find
(`uniqueItems_iff_pairwise`): what it remembers of the elements before (`Remembers`) is enough to tell
whether one of them is equivalent to the next one (`Remembers.mem_seen_iff`, `Remembers.any_iff`), since a
scalar is equivalent to the values of its key and to no composite, and it stays enough from element to
element (`Remembers.insert`, `Remembers.cons`).
-/

set_option autoImplicit false

namespace Intake

variable {seen : Std.HashSet ScalarKey} {composites before : List Value} {element : Value}

/-- What the search remembers of the elements before: the keys of the scalars, and the composites. -/
structure Remembers (seen : Std.HashSet ScalarKey) (composites before : List Value) : Prop where
  /-- The keys are those of the scalars among the elements. -/
  mem_seen : ∀ key, key ∈ seen ↔ ∃ earlier ∈ before, earlier.scalarKey? = some key
  /-- The composites are those among the elements. -/
  mem_composites : ∀ earlier, earlier ∈ composites ↔ earlier ∈ before ∧ earlier.scalarKey? = none

namespace Remembers

/-- In the beginning nothing is remembered. -/
theorem start : Remembers {} [] [] where
  mem_seen := by simp
  mem_composites := by simp

/-- After a scalar, its key is remembered as well. -/
theorem insert {key : ScalarKey} (remembers : Remembers seen composites before)
    (scalar : element.scalarKey? = some key) :
    Remembers (seen.insert key) composites (element :: before) where
  mem_seen := by
    intro other
    rw [Std.HashSet.mem_insert, remembers.mem_seen, beq_iff_eq, List.exists_mem_cons_iff, scalar,
      Option.some.injEq]
  mem_composites := by
    intro earlier
    rw [remembers.mem_composites, List.mem_cons]
    constructor
    · exact fun ⟨member, composite⟩ => ⟨Or.inr member, composite⟩
    · rintro ⟨rfl | member, composite⟩
      · rw [scalar] at composite
        cases composite
      · exact ⟨member, composite⟩

/-- After a composite, it is remembered itself. -/
theorem cons (remembers : Remembers seen composites before) (composite : element.scalarKey? = none) :
    Remembers seen (element :: composites) (element :: before) where
  mem_seen := by
    intro key
    rw [remembers.mem_seen, List.exists_mem_cons_iff, composite]
    simp
  mem_composites := by
    intro earlier
    rw [List.mem_cons, List.mem_cons, remembers.mem_composites]
    constructor
    · rintro (rfl | ⟨member, other⟩)
      · exact ⟨Or.inl rfl, composite⟩
      · exact ⟨Or.inr member, other⟩
    · rintro ⟨rfl | member, other⟩
      · exact Or.inl rfl
      · exact Or.inr ⟨member, other⟩

/-- A scalar is equivalent to an element before exactly if its key is remembered. -/
theorem mem_seen_iff {key : ScalarKey} (remembers : Remembers seen composites before)
    (scalar : element.scalarKey? = some key) :
    key ∈ seen ↔ ∃ earlier ∈ before, earlier.equivalent element = true := by
  rw [remembers.mem_seen]
  constructor
  · rintro ⟨earlier, member, same⟩
    exact ⟨earlier, member, (Value.equivalent_iff_of_scalarKey? same).mpr scalar⟩
  · rintro ⟨earlier, member, same⟩
    exact ⟨earlier, member, (Value.scalarKey?_of_equivalent same).symm.trans scalar⟩

/-- A composite is equivalent to an element before exactly if it is equivalent to one of the remembered
composites. -/
theorem any_iff (remembers : Remembers seen composites before)
    (composite : element.scalarKey? = none) :
    composites.any (fun other => other.equivalent element) = true
      ↔ ∃ earlier ∈ before, earlier.equivalent element = true := by
  rw [List.any_eq_true]
  constructor
  · rintro ⟨earlier, remembered, same⟩
    exact ⟨earlier, ((remembers.mem_composites earlier).mp remembered).1, same⟩
  · rintro ⟨earlier, member, same⟩
    have other : earlier.scalarKey? = none := (Value.scalarKey?_of_equivalent same).symm.trans composite
    exact ⟨earlier, (remembers.mem_composites earlier).mpr ⟨member, other⟩, same⟩

end Remembers

/-- **The search, from any point on**: it finds an element that is equivalent to one before it, where
those count that have gone by and those in the rest of the list. -/
theorem hasRepeatsAfter_eq_true_iff (remembers : Remembers seen composites before)
    (rest : List Value) :
    hasRepeatsAfter seen composites rest = true ↔
      (∃ element ∈ rest, ∃ earlier ∈ before, earlier.equivalent element = true) ∨
        ¬rest.Pairwise fun a b => a.equivalent b = false := by
  induction rest generalizing seen composites before with
  | nil => simp [hasRepeatsAfter]
  | cons element rest ih =>
    have next : hasRepeatsAfter seen composites (element :: rest) = true ↔
        (∃ earlier ∈ before, earlier.equivalent element = true) ∨
          (∃ later ∈ rest, ∃ earlier ∈ element :: before, earlier.equivalent later = true) ∨
            ¬rest.Pairwise fun a b => a.equivalent b = false := by
      rw [hasRepeatsAfter]
      split
      · rename_i key scalar
        rw [Bool.or_eq_true, Std.HashSet.contains_iff_mem, remembers.mem_seen_iff scalar,
          ih (remembers.insert scalar)]
      · rename_i composite
        rw [Bool.or_eq_true, remembers.any_iff composite, ih (remembers.cons composite)]
    have pairwise : ¬(element :: rest).Pairwise (fun a b => a.equivalent b = false) ↔
        (∃ later ∈ rest, element.equivalent later = true) ∨
          ¬rest.Pairwise fun a b => a.equivalent b = false := by
      simp [List.pairwise_cons, imp_iff_not_or]
    rw [next, pairwise]
    simp only [List.exists_mem_cons_iff]
    grind

/-- Repeats are found exactly if the elements are not pairwise different. -/
theorem hasRepeats_eq_true_iff {elements : List Value} :
    hasRepeats elements = true ↔ ¬elements.Pairwise fun a b => a.equivalent b = false := by
  rw [hasRepeats, hasRepeatsAfter_eq_true_iff .start]
  simp

/-- Elements that are not pairwise different have two places with equivalent values. -/
theorem not_pairwise_iff {elements : List Value} :
    (¬elements.Pairwise fun a b => a.equivalent b = false) ↔
      ∃ (i j : ℕ) (left : i < elements.length) (right : j < elements.length),
        i < j ∧ elements[i].equivalent elements[j] = true := by
  simp only [List.pairwise_iff_getElem, not_forall, Bool.not_eq_false, exists_prop]

/-- **Repeated elements are found exactly if two elements are equivalent.** So the rule `uniqueItems`,
made with the parameter true in any schema, lets an array through if its elements are pairwise not
equivalent, and otherwise refuses it. -/
theorem uniqueItems_iff_pairwise [Engines] (elements : List Value) :
    (hasRepeats elements = true ↔
        ∃ (i j : ℕ) (left : i < elements.length) (right : j < elements.length),
          i < j ∧ elements[i].equivalent elements[j] = true) ∧
      ∃ factory, RuleRegistry.builtin.get? "uniqueItems" = some factory ∧ ∀ schema : Schema,
        ∃ rule, (factory (.bool true) "uniqueItems" schema).value = .ok rule ∧
          ∀ (key : String) (record : Record), rule (.array elements) key record
            = if elements.Pairwise fun a b => a.equivalent b = false then .ok (.array elements)
              else .error (.rule "uniqueItems" "items must be unique") := by
  refine ⟨hasRepeats_eq_true_iff.trans not_pairwise_iff, _, RuleRegistry.get?_name .uniqueItems, ?_⟩
  intro schema
  refine ⟨Rule.ofConstraint "uniqueItems" (.distinct true), rfl, ?_⟩
  intro key record
  have accepts : (Constraint.distinct true).accepts (.array elements) = !hasRepeats elements := rfl
  rw [Rule.ofConstraint, accepts]
  by_cases distinct : elements.Pairwise fun a b => a.equivalent b = false
  · have none : hasRepeats elements = false := by
      rw [← Bool.not_eq_true, hasRepeats_eq_true_iff, not_not]
      exact distinct
    rw [none, if_pos distinct]
    rfl
  · rw [hasRepeats_eq_true_iff.mpr distinct, if_neg distinct]
    rfl

end Intake
