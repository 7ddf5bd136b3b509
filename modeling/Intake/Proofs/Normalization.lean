import Intake.Proofs.Equivalence
import Intake.Proofs.Quantities

/-!
# Normal forms

The normal form of a value has an integer for each number in it that denotes one of the integers there
are, those between -2^63 and 2^64, and is otherwise the value itself. Two values are equivalent exactly if
their normal forms agree (`equivalent_iff_normalize`). Of two numbers that denote the same quantity either
both become the same integer, or both are doubles and stay what they are, and doubles agree if they denote
the same quantity (`Number.same_normalize_iff`). So it is no matter that the keys of numbers count far
larger doubles as integers than there are.
-/

set_option autoImplicit false

namespace Intake

open Double (unitsPerOne)

/-! ## Numbers -/

namespace Number

variable {a b n : Number} {z : ℤ}

/-- The integers there are: those of sixty-four bits, signed or unsigned. -/
abbrev Fits (z : ℤ) : Prop :=
  -0x8000000000000000 ≤ z ∧ z < 0x10000000000000000

/-- The integer that a number denotes, if there is one, and else the number itself. -/
def normalize (n : Number) : Number :=
  n.integral?.getD n

/-- A whole number of sixty-four bits has the integer as its integral form. -/
theorem integral?_of_fits (fits : Fits z) (count : n.units = z * unitsPerOne) :
    n.integral? = some (integer z fits) := by
  cases n with
  | integer y _ =>
    obtain rfl : y = z := Double.mul_unitsPerOne_inj.mp count
    rfl
  | float d =>
    obtain ⟨whole, rfl⟩ := Double.isWhole_of_units count
    rw [integral?, if_pos whole, ofInt?, dif_pos fits]
    rfl

/-- A whole number beyond sixty-four bits is its own integral form. -/
theorem integral?_of_not_fits (large : ¬Fits z) (count : n.units = z * unitsPerOne) :
    n.integral? = some n := by
  cases n with
  | integer y _ => rfl
  | float d =>
    obtain ⟨whole, rfl⟩ := Double.isWhole_of_units count
    rw [integral?, if_pos whole, ofInt?, dif_neg large]
    rfl

/-- A number with a fraction has no integral form. -/
theorem integral?_of_fraction (fraction : ∀ z : ℤ, n.units ≠ z * unitsPerOne) :
    n.integral? = none := by
  cases n with
  | integer z _ => exact absurd rfl (fraction z)
  | float d =>
    refine if_neg ?_
    intro whole
    exact fraction d.truncate (Double.units_of_isWhole whole)

/-- A number denotes one of the integers there are, or it is a double. -/
theorem normalize_cases (n : Number) :
    (∃ z fits, n.units = z * unitsPerOne ∧ n.normalize = integer z fits) ∨
      ∃ d, n = float d ∧ n.normalize = n ∧ ∀ z : ℤ, n.units = z * unitsPerOne → ¬Fits z := by
  by_cases fitted : ∃ z : ℤ, n.units = z * unitsPerOne ∧ Fits z
  · obtain ⟨z, count, fits⟩ := fitted
    refine Or.inl ⟨z, fits, count, ?_⟩
    rw [normalize, integral?_of_fits fits count, Option.getD_some]
  · have large (z : ℤ) (count : n.units = z * unitsPerOne) : ¬Fits z :=
      fun fits => fitted ⟨z, count, fits⟩
    have unchanged : n.normalize = n := by
      by_cases whole : ∃ z : ℤ, n.units = z * unitsPerOne
      · obtain ⟨z, count⟩ := whole
        rw [normalize, integral?_of_not_fits (large z count) count, Option.getD_some]
      · rw [normalize, integral?_of_fraction (not_exists.mp whole), Option.getD_none]
    cases n with
    | integer z fits => exact absurd fits (large z rfl)
    | float d => exact Or.inr ⟨d, rfl, unchanged, large⟩

/-- The quantity of a number is an integer if its units are those of the integer. -/
theorem quantity_eq_intCast_iff : n.quantity = z ↔ n.units = z * unitsPerOne := by
  have nonzero := Double.unitsPerOne_cast_pos.ne'
  have counts : (n.units : ℚ) = (z * unitsPerOne : ℤ) ↔ n.units = z * unitsPerOne := Int.cast_inj
  rw [← counts, units_eq, Int.cast_mul, Int.cast_natCast, mul_left_inj' nonzero]

/-- Numbers that agree denote the same quantity. -/
theorem units_of_same (same : a.same b = true) : a.units = b.units := by
  cases a with
  | integer y _ =>
    cases b with
    | integer z _ =>
      obtain rfl : y = z := beq_iff_eq.mp same
      rfl
    | float e => cases same
  | float d =>
    cases b with
    | integer z _ => cases same
    | float e => exact beq_iff_eq.mp same

/-- **Normal forms agree exactly if the quantities are equal.** -/
theorem same_normalize_iff : a.normalize.same b.normalize = true ↔ a.units = b.units := by
  rcases normalize_cases a with ⟨y, fits, countA, normalA⟩ | ⟨d, rfl, normalA, largeA⟩ <;>
    rcases normalize_cases b with ⟨z, fits', countB, normalB⟩ | ⟨e, rfl, normalB, largeB⟩ <;>
    rw [normalA, normalB]
  · rw [countA, countB, Double.mul_unitsPerOne_inj]
    exact beq_iff_eq
  · refine iff_of_false nofun ?_
    intro same
    exact largeB y (same.symm.trans countA) fits
  · refine iff_of_false nofun ?_
    intro same
    exact largeA z (same.trans countB) fits'
  · exact beq_iff_eq

end Number

/-! ## Values -/

mutual

/-- The normal form of a value: all numbers in it are normalized, at any depth. -/
def Value.normalize : Value → Value
  | .number n => .number n.normalize
  | .array elements => .array (normalizeElements elements)
  | .object entries => .object (normalizeEntries entries)
  | scalar => scalar

/-- The normal forms of a list of values. -/
def normalizeElements : List Value → List Value
  | [] => []
  | element :: rest => element.normalize :: normalizeElements rest

/-- The entries of a record with the normal forms of their values. -/
def normalizeEntries : List (String × Value) → List (String × Value)
  | [] => []
  | (key, value) :: rest => (key, value.normalize) :: normalizeEntries rest

end

/-- The elements of an array are normalized one by one. -/
theorem normalizeElements_eq_map (elements : List Value) :
    normalizeElements elements = elements.map Value.normalize := by
  induction elements with
  | nil => rfl
  | cons element rest ih => rw [normalizeElements, ih, List.map_cons]

/-- Normalization keeps the number of entries. -/
theorem length_normalizeEntries (entries : List (String × Value)) :
    (normalizeEntries entries).length = entries.length := by
  induction entries with
  | nil => rfl
  | cons entry rest ih => rw [normalizeEntries, List.length_cons, ih, List.length_cons]

/-- Under each key there is the normal form of what was there. -/
theorem Record.get?_normalizeEntries (record : Record) (key : String) :
    get? (normalizeEntries record) key = (get? record key).map Value.normalize := by
  induction record with
  | nil => rfl
  | cons entry rest ih =>
    obtain ⟨k, value⟩ := entry
    rw [normalizeEntries, get?_cons, get?_cons, ih, apply_ite (Option.map Value.normalize),
      Option.map_some]

/-- Normalized elements are the same if there are equally many and they have the same normal forms. -/
theorem sameElements_normalize_iff {xs ys : List Value} :
    sameElements (normalizeElements xs) (normalizeElements ys) = true ↔ xs.length = ys.length ∧
      ∀ (i : ℕ) (left : i < xs.length) (right : i < ys.length),
        xs[i].normalize.same ys[i].normalize = true := by
  rw [normalizeElements_eq_map, normalizeElements_eq_map, sameElements_iff, List.forall₂_map_left_iff,
    List.forall₂_map_right_iff, List.forall₂_iff_get]
  rfl

/-- Normalized entries are the same as those of a record if the record has the same normal form under each
key. -/
theorem sameEntries_normalize_iff {xs : List (String × Value)} {ys : Record} :
    sameEntries (normalizeEntries xs) (normalizeEntries ys) = true
      ↔ ∀ x ∈ xs, ∃ y, Record.get? ys x.1 = some y ∧ x.2.normalize.same y.normalize = true := by
  induction xs with
  | nil => simp [normalizeEntries, sameEntries]
  | cons x xs ih =>
    obtain ⟨key, value⟩ := x
    rw [normalizeEntries, sameEntries, Record.get?_normalizeEntries, Bool.and_eq_true, ih]
    cases found : Record.get? ys key <;> simp [found]

namespace Value

variable {a b : Value}

/-- **Values are equivalent exactly if their normal forms agree.** -/
theorem equivalent_iff_same_normalize :
    a.equivalent b = true ↔ a.normalize.same b.normalize = true := by
  induction a using Value.induction generalizing b with
  | step a ih =>
    cases a with
    | number m =>
      cases b with
      | number n =>
        rw [normalize, normalize, same, Number.same_normalize_iff, ← Number.key_eq_iff, equivalent,
          beq_iff_eq]
      | _ => exact Iff.rfl
    | array elements =>
      cases b with
      | array others =>
        rw [normalize, normalize, same, sameElements_normalize_iff, equivalent, equivalentElements_iff]
        apply and_congr_right
        intro length
        refine forall₃_congr ?_
        intro i here there
        exact ih elements[i] (.element (List.getElem_mem here))
      | _ => exact Iff.rfl
    | object entries =>
      cases b with
      | object others =>
        rw [normalize, normalize, same, Bool.and_eq_true, sameEntries_normalize_iff,
          length_normalizeEntries, length_normalizeEntries, equivalent, Bool.and_eq_true,
          equivalentEntries_iff]
        apply and_congr_right
        intro length
        refine forall₂_congr ?_
        intro entry member
        refine exists_congr fun value => and_congr_right ?_
        intro found
        exact ih entry.2 (.entry member)
      | _ => exact Iff.rfl
    | _ => cases b <;> exact Iff.rfl

/-- Values that agree are equivalent. -/
theorem equivalent_of_same (agree : a.same b = true) : a.equivalent b = true := by
  induction a using Value.induction generalizing b with
  | step a ih =>
    cases a with
    | number m =>
      cases b with
      | number n =>
        rw [equivalent, beq_iff_eq, Number.key_eq_iff]
        exact Number.units_of_same agree
      | _ => cases agree
    | array elements =>
      cases b with
      | array others =>
        rw [same, sameElements_iff, List.forall₂_iff_get] at agree
        obtain ⟨length, pairs⟩ := agree
        rw [equivalent, equivalentElements_iff]
        refine ⟨length, ?_⟩
        intro i here there
        exact ih elements[i] (.element (List.getElem_mem here)) (pairs i here there)
      | _ => cases agree
    | object entries =>
      cases b with
      | object others =>
        rw [same, Bool.and_eq_true, sameEntries_iff] at agree
        obtain ⟨length, held⟩ := agree
        rw [equivalent, Bool.and_eq_true, equivalentEntries_iff]
        refine ⟨length, ?_⟩
        intro entry member
        obtain ⟨value, found, agree⟩ := held entry member
        exact ⟨value, found, ih entry.2 (.entry member) agree⟩
      | _ => cases agree
    | _ => cases b <;> exact agree

end Value

/-- **Equivalence is agreement of normal forms**, and values that agree already are equivalent. The normal
form of a number is the integer that it denotes, if there is one, and else the number itself. -/
theorem equivalent_iff_normalize :
    (∀ a b : Value, a.same b = true → a.equivalent b = true) ∧
      (∀ a b : Value, a.equivalent b = true ↔ a.normalize.same b.normalize = true) ∧
      (∀ (n : Number) (z : ℤ) (fits : Number.Fits z), n.quantity = z →
        n.normalize = .integer z fits) ∧
      ∀ n : Number, (∀ z : ℤ, Number.Fits z → n.quantity ≠ z) → n.normalize = n := by
  refine ⟨fun a b => Value.equivalent_of_same, fun a b => Value.equivalent_iff_same_normalize, ?_, ?_⟩
  · intro n z fits denotes
    have count := Number.quantity_eq_intCast_iff.mp denotes
    rw [Number.normalize, Number.integral?_of_fits fits count, Option.getD_some]
  · intro n none
    rcases n.normalize_cases with ⟨z, fits, count, -⟩ | ⟨-, -, unchanged, -⟩
    · exact absurd (Number.quantity_eq_intCast_iff.mpr count) (none z fits)
    · exact unchanged

/-- The double 2^63, which is an integer of sixty-four bits without a sign. -/
def largePower : Number := .float { Double.zero with exponent := ⟨1086, by decide⟩ }

/-- The double 2^64, which is none. -/
def hugePower : Number := .float { Double.zero with exponent := ⟨1087, by decide⟩ }

/-- A point whose first coordinate is the double zero. -/
def origin : Value :=
  .object [("x", .number (.float Double.zero)), ("y", Value.ofInt 0)]

/-- The same point with its coordinates turned round, and with the other zero. -/
def originReversed : Value :=
  .object [("y", Value.ofInt 0), ("x", .number (.float Double.zero.negate))]

/-- Two ways to write a point agree and are equivalent, a basket and the same basket in doubles have the
same normal form, and of two large doubles one becomes an integer. -/
theorem baskets_normalize :
    origin.same originReversed = true ∧ origin.equivalent originReversed = true ∧
      (Value.object basket).normalize.same basketOfDoubles.normalize = true ∧
      largePower.quantity = (0x8000000000000000 : ℤ) ∧
      largePower.normalize = .integer 0x8000000000000000 (by decide) ∧
      hugePower.quantity = (0x10000000000000000 : ℤ) ∧ hugePower.normalize = hugePower := by
  have agree : origin.same originReversed = true := by decide +kernel
  have large : largePower.quantity = (0x8000000000000000 : ℤ) := by
    norm_num [largePower, Double.zero, Number.quantity, Double.quantity, Double.size]
  have huge : hugePower.quantity = (0x10000000000000000 : ℤ) := by
    norm_num [hugePower, Double.zero, Number.quantity, Double.quantity, Double.size]
  have none : ∀ z : ℤ, Number.Fits z → hugePower.quantity ≠ z := by
    intro z fits denotes
    rw [huge, Int.cast_inj] at denotes
    exact fits.2.ne' denotes
  obtain ⟨refines, bridges, integers, others⟩ := equivalent_iff_normalize
  refine ⟨agree, refines _ _ agree, ?_, large, integers _ _ _ large, huge, others _ none⟩
  exact (bridges _ _).mp (by decide +kernel)

end Intake
