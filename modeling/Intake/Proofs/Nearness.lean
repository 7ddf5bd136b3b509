import Intake.Proofs.NearestDoubles

/-!
# Rounding to nearest

A rounded quotient is the double nearest to it, and the one with an even significand where two doubles are
equally near (`nearest?_isNearest`). The doubles about a quotient are the multiples of their spacing, and of
these the nearest one is chosen; doubles with another spacing lie beyond the end of the range in which the
quotient is, so they are farther away (`roundMagnitude_nearest`). A quotient without a rounded value is
larger than every double (`size_lt_of_nearest?`).
-/

set_option autoImplicit false

namespace Intake.Double

variable {negative : Bool} {num den magnitude : ℕ} {d e : Double}

/-! ## Nearest whole numbers -/

/-- No whole number other than the rounded quotient is nearer than half. -/
theorem roundEven_other (positive : 0 < den) {k : ℕ} (other : k ≠ roundEven num den) :
    (den : ℚ) / 2 ≤ |(k : ℚ) * den - num| := by
  have apart : (1 : ℚ) ≤ |(k : ℚ) - roundEven num den| := by
    exact_mod_cast Int.one_le_abs (sub_ne_zero.mpr (Int.ofNat_inj.not.mpr other))
  have scaled : (den : ℚ) ≤ |(k : ℚ) * den - roundEven num den * den| := by
    rw [← sub_mul, abs_mul, Nat.abs_cast]
    exact le_mul_of_one_le_left (Nat.cast_nonneg den) apart
  have split := abs_sub_le ((k : ℚ) * den) num (roundEven num den * den)
  have error := roundEven_error positive num
  rw [abs_sub_comm] at error
  linarith

/-- No whole number is nearer to a quotient than the one that it is rounded to. -/
theorem roundEven_least (positive : 0 < den) (num k : ℕ) :
    |(roundEven num den : ℚ) * den - num| ≤ |(k : ℚ) * den - num| := by
  rcases eq_or_ne k (roundEven num den) with rfl | other
  · rfl
  · exact (roundEven_error positive num).trans (roundEven_other positive other)

/-- Of two whole numbers that are equally near the even one is chosen. -/
theorem roundEven_tie (positive : 0 < den) {k : ℕ} (other : k ≠ roundEven num den)
    (tie : |(k : ℚ) * den - num| = |(roundEven num den : ℚ) * den - num|) :
    Even (roundEven num den) := by
  have half : (den : ℚ) / 2 ≤ |(roundEven num den : ℚ) * den - num| :=
    tie ▸ roundEven_other positive other
  have divided : (den : ℚ) * (num / den : ℕ) + (num % den : ℕ) = num := by
    exact_mod_cast Nat.div_add_mod num den
  have remainder : 2 * (num % den) = den := by
    rcases roundEven_cases num den with ⟨down, small⟩ | ⟨up, large⟩
    · have distance : (roundEven num den : ℚ) * den - num = -(num % den : ℕ) := by
        rw [down]
        linarith
      rw [distance, abs_neg, Nat.abs_cast] at half
      have : (den : ℚ) ≤ (2 * (num % den) : ℕ) := by
        push_cast
        linarith
      exact le_antisymm small (by exact_mod_cast this)
    · have below := (Nat.mod_lt num positive).le
      have distance : (roundEven num den : ℚ) * den - num = (den - num % den : ℕ) := by
        rw [up, Nat.cast_sub below]
        push_cast
        linarith
      rw [distance, Nat.abs_cast, Nat.cast_sub below] at half
      have : ((2 * (num % den) : ℕ) : ℚ) ≤ den := by
        push_cast
        linarith
      exact le_antisymm (by exact_mod_cast this) large
  have chosen : roundEven num den = num / den + num / den % 2 := by
    simp [roundEven, remainder]
  rw [chosen, Nat.even_iff]
  omega

/-! ## Nearest magnitudes -/

/-- The spacing of a magnitude divides the spacing of every greater one. -/
theorem spacing_dvd_spacing {magnitude' : ℕ} (le : magnitude ≤ magnitude') :
    spacing magnitude ∣ spacing magnitude' := by
  have logs : magnitude.log2 ≤ magnitude'.log2 := by
    rw [Nat.log2_eq_log_two, Nat.log2_eq_log_two]
    exact Nat.log_mono_right le
  exact pow_dvd_pow 2 (Nat.sub_le_sub_right logs 52)

/-- A magnitude of at most fifty-three bits is a multiple of the spacing about another one, or it lies
below all that have this spacing. -/
theorem spacing_dvd_or_lt (fits : FitsSignificand magnitude) (about : ℕ) :
    spacing about ∣ magnitude ∨
      magnitude < 2 ^ 52 * spacing about ∧ 2 ^ 52 * spacing about ≤ about := by
  rcases le_total about magnitude with above | below
  · exact Or.inl ((spacing_dvd_spacing above).trans fits)
  · rcases spacing_steps below with same | wider
    · exact Or.inl (same ▸ fits)
    · have positive := spacing_pos magnitude
      have bounded := lt_mul_spacing magnitude
      have large := (spacing_cases about).resolve_left (by omega)
      exact Or.inr ⟨by omega, large⟩

/-- The distance to a quotient, with the divisor multiplied out. -/
theorem abs_sub_div (positive : 0 < den) (x : ℚ) (num : ℕ) :
    |x - num / den| * den = |x * den - num| := by
  have nonzero : (den : ℚ) ≠ 0 := by exact_mod_cast positive.ne'
  rw [← Nat.abs_cast den, ← abs_mul, sub_mul, Nat.abs_cast, div_mul_cancel₀ _ nonzero]

/-- The multiples of the spacing about a quotient are compared with it like whole numbers. -/
theorem abs_mul_spacing_sub (positive : 0 < den) (k : ℕ) :
    |((k * spacing (num / den) : ℕ) : ℚ) - num / den| * den
      = |(k : ℚ) * (den * spacing (num / den) : ℕ) - num| := by
  rw [abs_sub_div positive]
  push_cast
  ring_nf

/-- **No magnitude of at most fifty-three bits is nearer to a quotient than the one that it is rounded
to**, and only an even multiple of the spacing is chosen over another one that is as near. -/
theorem roundMagnitude_nearest (positive : 0 < den) (num : ℕ) (fits : FitsSignificand magnitude) :
    |(roundMagnitude num den : ℚ) - num / den| ≤ |(magnitude : ℚ) - num / den| ∧
      (|(magnitude : ℚ) - num / den| = |(roundMagnitude num den : ℚ) - num / den| →
        magnitude ≠ roundMagnitude num den →
        Even (roundEven num (den * spacing (num / den)))) := by
  have denPositive : (0 : ℚ) < den := by exact_mod_cast positive
  have stepPositive : 0 < den * spacing (num / den) := Nat.mul_pos positive (spacing_pos _)
  have least (k : ℕ) : |(roundMagnitude num den : ℚ) - num / den|
      ≤ |((k * spacing (num / den) : ℕ) : ℚ) - num / den| := by
    apply le_of_mul_le_mul_right _ denPositive
    rw [roundMagnitude_eq, abs_mul_spacing_sub positive, abs_mul_spacing_sub positive]
    exact roundEven_least stepPositive num k
  rcases spacing_dvd_or_lt fits (num / den) with divides | ⟨below, edge⟩
  · obtain ⟨k, rfl⟩ := exists_eq_mul_left_of_dvd divides
    refine ⟨least k, ?_⟩
    intro tie other
    have tie : |(k : ℚ) * (den * spacing (num / den) : ℕ) - num|
        = |(roundEven num (den * spacing (num / den)) : ℚ) * (den * spacing (num / den) : ℕ) - num| := by
      rw [← abs_mul_spacing_sub positive, ← abs_mul_spacing_sub positive, tie, roundMagnitude_eq]
    refine roundEven_tie stepPositive ?_ tie
    rintro rfl
    exact other rfl
  -- A smaller magnitude with another spacing is farther away than the end of the range of the quotient.
  · have whole : ((num / den : ℕ) : ℚ) ≤ num / den := Nat.cast_div_le
    have edge : ((2 ^ 52 * spacing (num / den) : ℕ) : ℚ) ≤ (num / den : ℕ) := Nat.cast_le.mpr edge
    have below : (magnitude : ℚ) < (2 ^ 52 * spacing (num / den) : ℕ) := Nat.cast_lt.mpr below
    have near := least (2 ^ 52)
    rw [abs_of_nonpos (by linarith : ((2 ^ 52 * spacing (num / den) : ℕ) : ℚ) - num / den ≤ 0)] at near
    rw [abs_of_nonpos (by linarith : (magnitude : ℚ) - num / den ≤ 0)]
    constructor
    · linarith
    · intro tie
      linarith

/-! ## Nearest doubles -/

/-- An even number of steps of a power of two has an even significand. -/
theorem even_significand {steps exponent : ℕ} (even : Even steps) (small : steps ≤ 2 ^ 53)
    (product : d.magnitude = steps * 2 ^ exponent) : Even d.significand := by
  rw [Double.magnitude, Nat.pow_eq] at product
  rcases Nat.le_total (d.exponent.val - 1) exponent with fine | coarse
  · obtain ⟨more, rfl⟩ := Nat.exists_eq_add_of_le fine
    rw [pow_add, mul_left_comm, mul_comm] at product
    rw [Nat.eq_of_mul_eq_mul_left (Nat.two_pow_pos _) product]
    exact even.mul_right _
  · obtain ⟨more, coarser⟩ := Nat.exists_eq_add_of_le coarse
    rw [coarser, pow_add, mul_left_comm, mul_comm steps] at product
    have steps_eq := Nat.eq_of_mul_eq_mul_left (Nat.two_pow_pos _) product
    rcases Nat.eq_zero_or_pos more with rfl | positive
    · rw [pow_zero, Nat.mul_one] at steps_eq
      rwa [steps_eq]
    -- The steps are too few for a larger significand than the least one.
    · have normal : d.exponent.val ≠ 0 := by omega
      have double : d.significand * 2 ≤ d.significand * 2 ^ more :=
        Nat.mul_le_mul_left _ (Nat.le_self_pow positive.ne' 2)
      have least : 0x10000000000000 ≤ d.significand := by
        rw [significand, if_neg normal]
        exact Nat.le_add_right _ _
      have exactly : d.significand = 0x10000000000000 := by omega
      rw [exactly]
      decide

/-- A double is the one nearest to a quantity if no other is nearer, and if its significand is even
wherever another one is as near. -/
structure IsNearest (d : Double) (q : ℚ) : Prop where
  /-- No double is nearer. -/
  least : ∀ e : Double, |d.quantity - q| ≤ |e.quantity - q|
  /-- Of two doubles that are equally near it is the one with an even significand. -/
  even : ∀ e : Double, |e.quantity - q| = |d.quantity - q| → e.quantity ≠ d.quantity →
    Even d.significand

/-- A quotient in units is the quotient times the units of one. -/
theorem cast_units_div (num den : ℕ) :
    ((num * unitsPerOne : ℕ) : ℚ) / den = num / den * unitsPerOne := by
  push_cast
  ring

/-- The distance of a size to a rational number, in units. -/
theorem abs_size_sub (d : Double) (q : ℚ) :
    |d.size - q| * unitsPerOne = |(d.magnitude : ℚ) - q * unitsPerOne| := by
  rw [magnitude_eq, ← sub_mul, abs_mul, abs_of_pos unitsPerOne_cast_pos]

/-- Doubles of one sign are compared with a quantity of that sign by their sizes. -/
theorem abs_size_sub_le (e : Double) {q : ℚ} (nonneg : 0 ≤ q) (negative : Bool) :
    |e.size - q| ≤ |e.quantity - if negative then -q else q| := by
  have size : |if negative then -q else q| = q := by
    split <;> simp [abs_of_nonneg nonneg]
  have split := abs_abs_sub_abs_le e.quantity (if negative then -q else q)
  rwa [abs_quantity, size] at split

/-- A double of the other sign is farther away, unless there is no sign to tell them apart by. -/
theorem eq_zero_of_tie {q : ℚ} (nonneg : 0 ≤ q) (sizes : e.size = d.size)
    (other : e.quantity ≠ d.quantity)
    (tie : |e.quantity - if d.negative then -q else q| = |d.size - q|) : d.size = 0 ∨ q = 0 := by
  have size := d.size_nonneg
  have opposite : |e.quantity - if d.negative then -q else q| = d.size + q := by
    unfold quantity at other ⊢
    rw [sizes] at other ⊢
    rw [← abs_of_nonneg (add_nonneg size nonneg)]
    cases negative : d.negative <;> cases negative' : e.negative
    · simp [negative, negative'] at other
    · simp only [if_true, Bool.false_eq_true, if_false]
      rw [← abs_neg]
      ring_nf
    · simp
    · simp [negative, negative'] at other
  rw [opposite] at tie
  rcases abs_choice (d.size - q) with left | right
  · right
    linarith
  · left
    linarith

/-- **A rounded quotient is the double nearest to it.** -/
theorem nearest?_isNearest (positive : 0 < den) (rounded : nearest? negative num den = some d) :
    d.IsNearest (if negative then -(num / den) else num / den) := by
  obtain ⟨rfl, made⟩ := nearest?_eq_some rounded
  have nonneg : (0 : ℚ) ≤ num / den := div_nonneg (Nat.cast_nonneg _) (Nat.cast_nonneg _)
  have counted := cast_units_div num den
  have nearest (e : Double) :=
    roundMagnitude_nearest positive (num * unitsPerOne) e.fitsSignificand_magnitude
  have sizes (e : Double) : |d.size - num / den| ≤ |e.size - num / den| := by
    apply le_of_mul_le_mul_right _ unitsPerOne_cast_pos
    rw [abs_size_sub, abs_size_sub, made, ← counted]
    exact (nearest e).1
  constructor
  · intro e
    rw [abs_quantity_sub]
    exact (sizes e).trans (e.abs_size_sub_le nonneg d.negative)
  · intro e tie other
    rw [abs_quantity_sub] at tie
    by_cases same : e.magnitude = roundMagnitude (num * unitsPerOne) den
    · have equal : e.size = d.size := by
        apply mul_right_cancel₀ unitsPerOne_cast_pos.ne'
        rw [← magnitude_eq, ← magnitude_eq, same, made]
      have zero : d.size = 0 := by
        rcases eq_zero_of_tie nonneg equal other tie with zero | zero
        · exact zero
        · simpa [zero, Double.zero, size] using sizes Double.zero
      have none : d.magnitude = 0 * 2 ^ 0 := by
        have : (d.magnitude : ℚ) = 0 := by rw [magnitude_eq, zero, zero_mul]
        exact_mod_cast this
      exact even_significand Even.zero (by decide) none
    · have tie : |e.size - num / den| = |d.size - num / den| :=
        ((e.abs_size_sub_le nonneg d.negative).trans_eq tie).antisymm (sizes e)
      have tie : |(e.magnitude : ℚ) - (num * unitsPerOne : ℕ) / den|
          = |(roundMagnitude (num * unitsPerOne) den : ℚ) - (num * unitsPerOne : ℕ) / den| := by
        rw [counted, ← abs_size_sub, tie, abs_size_sub, made]
      have even := (nearest e).2 tie same
      exact even_significand even (roundEven_spacing_le _ _) (made.trans (roundMagnitude_eq _ _))

/-- The magnitudes of doubles have at most 2098 bits. -/
theorem magnitude_lt_pow {limit : ℕ} (large : 2098 ≤ limit) (e : Double) : e.magnitude < 2 ^ limit :=
  calc e.magnitude < 2 ^ 52 * 2 ^ e.exponent.val := magnitude_lt e
    _ = 2 ^ (52 + e.exponent.val) := (pow_add 2 _ _).symm
    _ ≤ 2 ^ limit := Nat.pow_le_pow_right (by decide) (by omega)

/-- Beyond the largest double a quotient has no double nearest to it. -/
theorem size_lt_of_nearest? (positive : 0 < den) (none : nearest? negative num den = none)
    (e : Double) : e.size < num / den := by
  have scale := unitsPerOne_cast_pos
  have counted := cast_units_div num den
  have large : 2098 ≤ (roundMagnitude (num * unitsPerOne) den).log2 := by
    by_contra small
    obtain ⟨d, made⟩ := exists_ofMagnitude? negative (not_le.mp small)
    rw [nearest?, made] at none
    cases none
  have nonzero : roundMagnitude (num * unitsPerOne) den ≠ 0 := by
    intro zero
    simp [zero] at large
  have above : (e.magnitude : ℚ) < (roundMagnitude (num * unitsPerOne) den : ℕ) :=
    Nat.cast_lt.mpr ((e.magnitude_lt_pow large).trans_le (Nat.log2_self_le nonzero))
  have nearest := (roundMagnitude_nearest positive (num * unitsPerOne) e.fitsSignificand_magnitude).1
  by_contra within
  have within : (num * unitsPerOne : ℕ) / den ≤ (e.magnitude : ℚ) := by
    rw [magnitude_eq, counted]
    exact mul_le_mul_of_nonneg_right (not_lt.mp within) scale.le
  rw [abs_of_nonneg (sub_nonneg.mpr within)] at nearest
  have rounded := le_abs_self
    ((roundMagnitude (num * unitsPerOne) den : ℚ) - (num * unitsPerOne : ℕ) / den)
  linarith

/-- What rounding makes of a quantity: the double nearest to it, or none if it is larger than every
double. -/
def IsRounded (q : ℚ) : Option Double → Prop
  | some d => d.IsNearest q
  | none => ∀ e : Double, |e.quantity| < |q|

/-- **A quotient is rounded to nearest.** -/
theorem nearest?_isRounded (positive : 0 < den) (num : ℕ) (negative : Bool) :
    IsRounded (if negative then -(num / den) else num / den) (nearest? negative num den) := by
  cases rounded : nearest? negative num den with
  | some d => exact nearest?_isNearest positive rounded
  | none =>
    intro e
    have size : |if negative then -((num : ℚ) / den) else num / den| = num / den := by
      rw [apply_ite abs, abs_neg, ite_self]
      exact abs_of_nonneg (div_nonneg (Nat.cast_nonneg _) (Nat.cast_nonneg _))
    rw [size, abs_quantity]
    exact size_lt_of_nearest? positive rounded e

/-! ## Nearest doubles and exact ones -/

namespace IsNearest

variable {q : ℚ}

/-- A quantity that a double denotes is denoted by the double nearest to it. -/
theorem quantity_eq (near : d.IsNearest q) (exactly : e.quantity = q) : d.quantity = q := by
  have none := near.least e
  rw [exactly, sub_self, abs_zero] at none
  exact sub_eq_zero.mp (abs_nonpos_iff.mp none)

/-- The double nearest to a quantity of moderate size differs from it by one part in 2^53 at most, or by
half the least positive double where that is more. -/
theorem error (near : d.IsNearest q) (small : |q| < 2 ^ 100) :
    |d.quantity - q| ≤ max (2 ^ (-1075 : ℤ)) (|q| / 2 ^ 53) := by
  have positive : (0 : ℚ) < q.den := by exact_mod_cast q.den_pos
  have size : (q.num.natAbs : ℚ) / q.den = |q| := by
    rw [Nat.cast_natAbs, Int.cast_abs, ← abs_of_pos positive, ← abs_div, Rat.num_div_den]
  have bounded : (q.num.natAbs : ℚ) < (q.den * 2 ^ 100 : ℕ) := by
    rw [← size, div_lt_iff₀ positive, mul_comm] at small
    exact_mod_cast small
  obtain ⟨e, rounded⟩ := exists_nearest? (decide (q < 0)) (Nat.cast_lt.mp bounded)
  have sign : e.negative = decide (q < 0) := (nearest?_eq_some rounded).1
  have signed : (if e.negative then -|q| else |q|) = q := by
    rw [sign]
    rcases lt_or_ge q 0 with negative | nonneg
    · simp [negative, abs_of_neg negative]
    · simp [nonneg.not_gt, abs_of_nonneg nonneg]
  have error := nearest?_error q.den_pos rounded
  rw [size, ← abs_quantity_sub, signed] at error
  exact (near.least e).trans error

end IsNearest

/-- The least positive double is no larger than any other one. -/
theorem le_size (nonzero : e.size ≠ 0) : 2 ^ (-1074 : ℤ) ≤ e.size := by
  have scale := unitsPerOne_cast_pos
  have positive : 0 < e.magnitude := by
    rw [Nat.pos_iff_ne_zero, ← Nat.cast_ne_zero (R := ℚ), magnitude_eq]
    exact mul_ne_zero nonzero scale.ne'
  have least : (1 : ℚ) ≤ e.size * unitsPerOne := by
    rw [← magnitude_eq]
    exact_mod_cast positive
  apply le_of_mul_le_mul_right _ scale
  rw [unitsPerOne_cast, ← zpow_add₀ (by norm_num)] at *
  simpa using least

/-- Zero is the double nearest to any quantity below half the least positive double. -/
theorem isNearest_of_small {q : ℚ} (zero : d.quantity = 0) (small : |q| < 2 ^ (-1075 : ℤ)) :
    d.IsNearest q := by
  have farther (e : Double) (nonzero : e.quantity ≠ 0) : |q| < |e.quantity - q| := by
    have size : e.size ≠ 0 := by
      rwa [← abs_quantity, ne_eq, abs_eq_zero]
    have least := le_size size
    have half : (2 : ℚ) ^ (-1074 : ℤ) = 2 * 2 ^ (-1075 : ℤ) := by
      rw [← zpow_one_add₀ (by norm_num)]
      norm_num
    have split := abs_sub_abs_le_abs_sub e.quantity q
    rw [abs_quantity] at split
    linarith
  constructor
  · intro e
    rw [zero, zero_sub, abs_neg]
    by_cases other : e.quantity = 0
    · rw [other, zero_sub, abs_neg]
    · exact (farther e other).le
  · intro e tie other
    rw [zero] at other
    rw [zero, zero_sub, abs_neg] at tie
    exact absurd tie (farther e other).ne'

/-- Doubles are less than 2^1024. -/
theorem size_lt (e : Double) : e.size < 2 ^ (1024 : ℤ) := by
  obtain ⟨limit, limit_eq⟩ : ∃ limit, limit = 2098 := ⟨_, rfl⟩
  have exponent : (1024 : ℤ) + (1074 : ℕ) = limit := by omega
  have bounded : (e.magnitude : ℚ) < (2 ^ limit : ℕ) := Nat.cast_lt.mpr (e.magnitude_lt_pow limit_eq.ge)
  apply lt_of_mul_lt_mul_right _ unitsPerOne_cast_pos.le
  rwa [← magnitude_eq, unitsPerOne_cast, ← zpow_add₀ (by norm_num), exponent, zpow_natCast,
    ← Nat.cast_two, ← Nat.cast_pow]

end Intake.Double
