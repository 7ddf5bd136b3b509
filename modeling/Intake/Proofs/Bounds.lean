import Intake.Proofs.Filters
import Intake.Proofs.NearestDoubles

/-!
# Bounds of numbers

The rules that bound numbers compare the double of a number with the double of their limit. Rounding keeps
the order, so a bound judges as the quantities themselves are ordered, except where two different
quantities have the same double: there it judges as if they were equal (`bounds_compare_doubles`). That
takes an integer beyond 2^53, where some integers lie between two doubles, and such a bound is not exact
(`bounds_not_exact`), although equivalence tells these integers apart.
-/

set_option autoImplicit false

namespace Intake

open Double (unitsPerOne roundUnits)

namespace Comparison

/-- The keyword of the rule that compares numbers with a limit. -/
def keyword : Comparison → Keyword
  | .atLeast => .minimum
  | .atMost => .maximum
  | .greaterThan => .exclusiveMinimum
  | .lessThan => .exclusiveMaximum

/-- Whether a quantity stands in the comparison to a limit. -/
def Orders (comparison : Comparison) (quantity limit : ℚ) : Prop :=
  match comparison with
  | .atLeast => limit ≤ quantity
  | .atMost => quantity ≤ limit
  | .greaterThan => limit < quantity
  | .lessThan => quantity < limit

/-- A comparison looks at nothing but which of two numbers is less. -/
theorem orders_congr {p q p' q' : ℚ} (less : p < q ↔ p' < q') (greater : q < p ↔ q' < p')
    (comparison : Comparison) : comparison.Orders p q ↔ comparison.Orders p' q' := by
  cases comparison with
  | atLeast => simp only [Orders, ← not_lt, less]
  | atMost => simp only [Orders, ← not_lt, greater]
  | greaterThan => exact greater
  | lessThan => exact less

end Comparison

/-! ## Counting in units -/

namespace Double

/-- What counts two rational numbers in multiples of the least double keeps their order. -/
theorem units_lt_iff {x y : ℤ} {p q : ℚ} (left : (x : ℚ) = p * unitsPerOne)
    (right : (y : ℚ) = q * unitsPerOne) : x < y ↔ p < q := by
  have positive := unitsPerOne_cast_pos
  have counts : (x : ℚ) < y ↔ x < y := Int.cast_lt
  rw [← counts, left, right, mul_lt_mul_iff_left₀ positive]

/-- Doubles are in the order of their units. -/
theorem quantity_lt_iff {d e : Double} : d.quantity < e.quantity ↔ d.units < e.units :=
  (units_lt_iff d.units_eq e.units_eq).symm

/-- Doubles have one quantity exactly if they have the same units. -/
theorem quantity_eq_iff {d e : Double} : d.quantity = e.quantity ↔ d.units = e.units :=
  Number.quantity_eq_iff (a := .float d) (b := .float e)

end Double

/-- Comparing the units of doubles is comparing their quantities. -/
theorem Comparison.holds_iff (comparison : Comparison) (d e : Double) :
    comparison.holds d.units e.units = true ↔ comparison.Orders d.quantity e.quantity := by
  have less := Double.quantity_lt_iff (d := d) (e := e)
  have greater := Double.quantity_lt_iff (d := e) (e := d)
  cases comparison <;> simp only [holds, Orders, decide_eq_true_eq, ← not_lt, less, greater]

namespace Number

variable {a b : Number}

/-- Numbers are in the order of their units. -/
theorem quantity_lt_iff : a.quantity < b.quantity ↔ a.units < b.units :=
  (Double.units_lt_iff a.units_eq b.units_eq).symm

/-! ## Quantities that rounding merges -/

/-- An integer of at most fifty-three bits is a double, and so is every double. -/
theorem units_toDouble_eq_self (small : a.units.natAbs ≤ 2 ^ 53 * unitsPerOne) :
    a.toDouble.units = a.units := by
  cases a with
  | integer z fits =>
    have magnitude : (integer z fits).units.natAbs = z.natAbs * unitsPerOne := by
      rw [units, Int.natAbs_mul, Int.natAbs_natCast]
    have bits : z.natAbs ≤ 2 ^ 53 := by
      rw [magnitude] at small
      exact Nat.le_of_mul_le_mul_right small Double.unitsPerOne_pos
    have fitted : Double.FitsSignificand (integer z fits).units.natAbs := by
      rw [magnitude]
      exact Double.fitsSignificand_mul_unitsPerOne bits
    rw [units_toDouble, Double.roundUnits_eq_self fitted]
  | float d => rfl

/-- Different quantities have different doubles as soon as one of them is below 2^53 in size. -/
theorem units_eq_of_toDouble (same : a.toDouble.units = b.toDouble.units)
    (small : b.units.natAbs < 2 ^ 53 * unitsPerOne) : a.units = b.units := by
  have exactB : b.toDouble.units = b.units := units_toDouble_eq_self small.le
  by_cases bounded : a.units.natAbs ≤ 2 ^ 53 * unitsPerOne
  · rw [← units_toDouble_eq_self bounded, same, exactB]
  -- Beyond 2^53 the other one is not rounded below it.
  · have edge : roundUnits ((2 ^ 53 * unitsPerOne : ℕ) : ℤ) = (2 ^ 53 * unitsPerOne : ℕ) :=
      Double.roundUnits_eq_self (Double.fitsSignificand_mul_unitsPerOne le_rfl)
    rw [exactB, units_toDouble] at same
    rcases lt_or_ge a.units 0 with negative | positive
    · have beyond : roundUnits a.units ≤ roundUnits (-((2 ^ 53 * unitsPerOne : ℕ) : ℤ)) :=
        Double.roundUnits_mono (by omega)
      rw [Double.roundUnits_neg, edge, same] at beyond
      omega
    · have beyond : roundUnits ((2 ^ 53 * unitsPerOne : ℕ) : ℤ) ≤ roundUnits a.units :=
        Double.roundUnits_mono (by omega)
      rw [edge, same] at beyond
      omega

/-- Units are below those of 2^53 exactly if the quantity is. -/
theorem natAbs_units_lt_iff :
    a.units.natAbs < 2 ^ 53 * unitsPerOne ↔ |a.quantity| < 2 ^ 53 := by
  have positive := Double.unitsPerOne_cast_pos
  have size : (a.units.natAbs : ℚ) = |a.quantity| * unitsPerOne := by
    rw [Nat.cast_natAbs, Int.cast_abs, units_eq, abs_mul, abs_of_pos positive]
  have counts : (a.units.natAbs : ℚ) < ((2 ^ 53 * unitsPerOne : ℕ) : ℚ)
      ↔ a.units.natAbs < 2 ^ 53 * unitsPerOne := Nat.cast_lt
  rw [← counts, size, Nat.cast_mul, mul_lt_mul_iff_left₀ positive]
  norm_num

/-- Two different quantities have the same double. -/
def Merged (a b : Number) : Prop :=
  a.toDouble.quantity = b.toDouble.quantity ∧ a.quantity ≠ b.quantity

/-- Being merged does not depend on the order of the two numbers. -/
theorem Merged.symm (merged : Merged a b) : Merged b a :=
  ⟨merged.1.symm, merged.2.symm⟩

/-- Merged numbers are at least 2^53 in absolute value. -/
theorem Merged.le_abs_quantity (merged : Merged a b) : 2 ^ 53 ≤ |b.quantity| := by
  by_contra small
  have units := natAbs_units_lt_iff.mpr (not_le.mp small)
  have same := units_eq_of_toDouble (Double.quantity_eq_iff.mp merged.1) units
  exact merged.2 (quantity_eq_iff.mpr same)

/-- Numbers that are not merged are in the order of their doubles. -/
theorem toDouble_lt_iff (distinct : ¬Merged a b) :
    a.toDouble.quantity < b.toDouble.quantity ↔ a.quantity < b.quantity := by
  rw [Double.quantity_lt_iff, quantity_lt_iff]
  constructor
  · exact units_lt_of_toDouble
  · intro less
    have le : a.toDouble.units ≤ b.toDouble.units := by
      rw [units_toDouble, units_toDouble]
      exact Double.roundUnits_mono less.le
    refine le.lt_of_ne ?_
    intro same
    refine distinct ⟨Double.quantity_eq_iff.mpr same, ?_⟩
    exact mt quantity_eq_iff.mp less.ne

end Number

/-! ## The rules -/

/-- A bound on numbers decides as the comparison of the two doubles does. -/
theorem Comparison.decides_iff [Engines] (comparison : Comparison) (n limit : Number) {verdict : Prop} :
    comparison.keyword.Decides (.number limit) (.number n) verdict
      ↔ (comparison.Orders n.toDouble.quantity limit.toDouble.quantity ↔ verdict) := by
  have made : comparison.keyword.constraint (.number limit)
      = .ok (.bound comparison limit.toDouble) := by
    cases comparison <;> rfl
  rw [Keyword.decides_iff made, ← comparison.holds_iff]
  rfl

/-- **Bounds compare nearest doubles.** So the four rules of a limit judge a number exactly as the
quantities are ordered, unless the number and the limit are different quantities with the same double.
This needs both to be 2^53 or more in size. -/
theorem bounds_compare_doubles [Engines] (n limit : Number) :
    (∀ comparison : Comparison, comparison.keyword.Decides (.number limit) (.number n)
        (comparison.Orders n.toDouble.quantity limit.toDouble.quantity)) ∧
      ((∀ comparison : Comparison, comparison.keyword.Decides (.number limit) (.number n)
          (comparison.Orders n.quantity limit.quantity)) ↔ ¬n.Merged limit) ∧
      (n.Merged limit → 2 ^ 53 ≤ |n.quantity| ∧ 2 ^ 53 ≤ |limit.quantity|) := by
  simp only [Comparison.decides_iff, implies_true, true_and]
  refine ⟨⟨?_, ?_⟩, ?_⟩
  · rintro exactly ⟨same, different⟩
    have least : limit.quantity ≤ n.quantity := (exactly .atLeast).mp same.ge
    have greatest : n.quantity ≤ limit.quantity := (exactly .atMost).mp same.le
    exact different (greatest.antisymm least)
  · intro distinct
    have distinct' : ¬limit.Merged n := mt Number.Merged.symm distinct
    exact Comparison.orders_congr (Number.toDouble_lt_iff distinct) (Number.toDouble_lt_iff distinct')
  · exact fun merged => ⟨merged.symm.le_abs_quantity, merged.le_abs_quantity⟩

/-- The integer 2^53. From here on the doubles are two apart. -/
def evenLimit : Number := .integer 0x20000000000000 (by decide)

/-- The integer after 2^53, which is no double. -/
def oddSuccessor : Number := .integer 0x20000000000001 (by decide)

/-- The odd successor of 2^53 is merged with it. -/
theorem oddSuccessor_merged : oddSuccessor.Merged evenLimit := by
  have rounded : oddSuccessor.toDouble = evenLimit.toDouble := by decide +kernel
  refine ⟨congrArg Double.quantity rounded, ?_⟩
  norm_num [oddSuccessor, evenLimit, Number.quantity]

/-- The bounds of 2^53 do not judge the next integer exactly. -/
theorem bounds_of_evenLimit :
    oddSuccessor.Merged evenLimit ∧
      (¬∀ comparison : Comparison,
        comparison.keyword.Decides (.number evenLimit) (.number oddSuccessor)
          (comparison.Orders oddSuccessor.quantity evenLimit.quantity)) ∧
      2 ^ 53 ≤ |oddSuccessor.quantity| ∧ 2 ^ 53 ≤ |evenLimit.quantity| := by
  obtain ⟨-, exactly, large⟩ := bounds_compare_doubles oddSuccessor evenLimit
  refine ⟨oddSuccessor_merged, ?_, large oddSuccessor_merged⟩
  exact fun judged => exactly.mp judged oddSuccessor_merged

/-- **Bounds are not exact.** The integer after 2^53 is greater than 2^53, and the rule that asks for
this refuses it. -/
theorem bounds_not_exact :
    ¬∀ (comparison : Comparison) (n limit : Number),
      comparison.keyword.Decides (.number limit) (.number n)
        (comparison.Orders n.quantity limit.quantity) := by
  intro exactly
  have judged := (Comparison.decides_iff .greaterThan oddSuccessor evenLimit).mp
    (exactly .greaterThan oddSuccessor evenLimit)
  have greater : Comparison.greaterThan.Orders oddSuccessor.quantity evenLimit.quantity := by
    norm_num [Comparison.Orders, oddSuccessor, evenLimit, Number.quantity]
  exact (judged.mpr greater).ne' oddSuccessor_merged.1

end Intake
