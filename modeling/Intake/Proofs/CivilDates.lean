import Intake.Calendar.Civil
import Mathlib.Tactic

/-!
# Dates and their numbers

The date of a day number has that number (`CivilDate.dayNumber_ofDayNumber`), before 1970 as well as after,
and it lies in the supported years if the number does (`CivilDate.valid_ofDayNumber`). Years are counted
from March here, so that the leap day is the last day of its year. A day of a cycle of 400 years is then so
many centuries, spans of four years, years and days from its beginning (`CycleDay`), and the quotients by
which the year is computed from the day can be read off these parts.
-/

set_option autoImplicit false

namespace Intake.CivilDate

/-! ## Days of a cycle -/

/-- A day of a cycle of 400 years, which begins in March. -/
structure CycleDay where
  /-- Whole centuries before the day. -/
  centuries : ℤ
  /-- Whole spans of four years before it in its century. -/
  spans : ℤ
  /-- Whole years before it in its span. -/
  years : ℤ
  /-- Whole days before it in its year. -/
  days : ℤ
  centuries_range : 0 ≤ centuries ∧ centuries ≤ 3
  spans_range : 0 ≤ spans ∧ spans ≤ 24
  years_range : 0 ≤ years ∧ years ≤ 3
  days_nonneg : 0 ≤ days
  /-- The last year of a span has a day more, except in the last span of a century that is not the last. -/
  days_range : days ≤ 364 ∨ days = 365 ∧ years = 3 ∧ (spans ≤ 23 ∨ centuries = 3)

namespace CycleDay

/-- The year of the day in its cycle. -/
def year (day : CycleDay) : ℤ :=
  100 * day.centuries + 4 * day.spans + day.years

/-- The number of days before it in its cycle. -/
def number (day : CycleDay) : ℤ :=
  36524 * day.centuries + 1461 * day.spans + 365 * day.years + day.days

/-- Every number below the length of a cycle is that of one of its days. -/
theorem exists_number {n : ℤ} (least : 0 ≤ n) (less : n < 146097) : ∃ day : CycleDay, day.number = n := by
  -- The last day of a cycle would begin a fifth century, and that of a span a fifth year.
  let inCentury := n - 36524 * min (n / 36524) 3
  let inSpan := inCentury % 1461
  have days_range : inSpan - 365 * min (inSpan / 365) 3 ≤ 364 ∨
      inSpan - 365 * min (inSpan / 365) 3 = 365 ∧ min (inSpan / 365) 3 = 3 ∧
        (inCentury / 1461 ≤ 23 ∨ min (n / 36524) 3 = 3) := by omega
  exact ⟨⟨min (n / 36524) 3, inCentury / 1461, min (inSpan / 365) 3, inSpan - 365 * min (inSpan / 365) 3,
    by omega, by omega, by omega, by omega, days_range⟩, by simp only [number]; omega⟩

variable (day : CycleDay)

/-- A cycle has four hundred years. -/
theorem year_range : 0 ≤ day.year ∧ day.year ≤ 399 := by
  have := day.centuries_range
  have := day.spans_range
  have := day.years_range
  unfold year
  omega

/-- The number of a day counts the days of the years before its own and those before it in its year. -/
theorem number_eq : day.number = daysBeforeYear day.year + day.days := by
  have := day.centuries_range
  have := day.spans_range
  have := day.years_range
  unfold number daysBeforeYear year
  omega

/-- **The year of a day** is what is left of its number, without the leap days before it, in years of 365
days. The day that ends a leap year counts as one of the leap days before it. -/
theorem year_eq : (day.number - day.number / 1460 + day.number / 36524 - day.number / 146096) / 365
    = day.year := by
  obtain ⟨c, q, r, e, centuries, spans, years, nonneg, days⟩ := day
  simp only [number, year]
  rcases eq_or_ne (36524 * c + 1461 * q + 365 * r + e) 146096 with last | other
  · have final : 100 * c + 4 * q + r = 399 := by omega
    rw [last, final]
    rfl
  · have inCentury : 1461 * q + 365 * r + e < 36524 := by omega
    have cycles : (36524 * c + 1461 * q + 365 * r + e) / 146096 = 0 := by omega
    have centuries : (36524 * c + 1461 * q + 365 * r + e) / 36524 = c := by
      rw [Int.ediv_eq_iff_of_pos (by decide)]
      omega
    have leapDays : (36524 * c + 1461 * q + 365 * r + e) / 1460
        = 25 * c + q + (24 * c + q + 365 * r + e) / 1460 := by omega
    have own : (24 * c + q + 365 * r + e) / 1460 = 0 ∧ e ≤ 364 ∨
        (24 * c + q + 365 * r + e) / 1460 = 1 ∧ 1 ≤ e := by omega
    rw [cycles, centuries, leapDays, Int.ediv_eq_iff_of_pos (by decide)]
    omega

/-- A year of 366 days ends in a civil year that has a leap day. -/
theorem isLeapYear_succ_year (leap : day.days = 365) (cycle : ℤ) :
    isLeapYear (day.year + cycle * 400 + 1) = true := by
  have := day.days_range
  have := day.spans_range
  have := day.centuries_range
  simp only [isLeapYear, year, Bool.and_eq_true, Bool.or_eq_true, beq_iff_eq, bne_iff_ne]
  omega

end CycleDay

/-- A cycle of four hundred years has 146097 days. -/
theorem daysBeforeYear_cycles (year cycle : ℤ) :
    daysBeforeYear (year + cycle * 400) = daysBeforeYear year + cycle * 146097 := by
  unfold daysBeforeYear
  omega

/-- A later year has no fewer days before it. -/
theorem daysBeforeYear_mono {year later : ℤ} (le : year ≤ later) :
    daysBeforeYear year ≤ daysBeforeYear later := by
  unfold daysBeforeYear
  omega

/-! ## Months -/

/-- A day of the year lies in the month that is found for it, months counted from March. -/
theorem month_range {day : ℤ} (nonneg : 0 ≤ day) (less : day < 366) :
    0 ≤ (5 * day + 2) / 153 ∧ (5 * day + 2) / 153 ≤ 11 ∧
      daysBeforeMonth ((5 * day + 2) / 153) ≤ day ∧ day < daysBeforeMonth ((5 * day + 2) / 153 + 1) := by
  unfold daysBeforeMonth
  omega

/-- Months counted from March as 0 have their civil numbers. -/
theorem civilMonth_range {month : ℤ} (range : 0 ≤ month ∧ month ≤ 11) :
    let civil := if month < 10 then month + 3 else month - 9
    1 ≤ civil ∧ civil ≤ 12 ∧ (civil + 9) % 12 = month := by
  intro civil
  omega

/-! ## Dates -/

/-- The date of a day that is counted from March: the month is that of the day of the year. -/
structure IsDateOf (date : CivilDate) (year day : ℤ) : Prop where
  month_range : 1 ≤ date.month ∧ date.month ≤ 12
  /-- January and February belong to the next civil year. -/
  year_eq : date.year = if date.month ≤ 2 then year + 1 else year
  /-- The days before the month and those of the month make the day of the year. -/
  day_eq : daysBeforeMonth ((date.month + 9) % 12 : ℕ) + date.day = day + 1
  day_pos : 1 ≤ date.day
  /-- The day is before the next month. -/
  day_lt : day < daysBeforeMonth ((date.month + 9) % 12 + 1 : ℕ)

/-- **The date of a day of a cycle** is found by its year and its day of the year. -/
theorem ofDayNumber_cycleDay (cycle : ℤ) (day : CycleDay) :
    (ofDayNumber (cycle * 146097 + day.number - marchOfYearZero)).IsDateOf (day.year + cycle * 400)
      day.days := by
  have days_range : 0 ≤ day.days ∧ day.days < 366 := by
    have := day.days_nonneg
    have := day.days_range
    omega
  have range : 0 ≤ day.number ∧ day.number < 146097 := by
    have := day.centuries_range
    have := day.spans_range
    have := day.years_range
    unfold CycleDay.number
    omega
  have cycles : (cycle * 146097 + day.number) / 146097 = cycle := by omega
  have number : (cycle * 146097 + day.number) % 146097 = day.number := by omega
  have days : day.number - daysBeforeYear day.year = day.days := by
    rw [day.number_eq]
    omega
  have date : ofDayNumber (cycle * 146097 + day.number - marchOfYearZero) =
      let month := (5 * day.days + 2) / 153
      let civil := if month < 10 then month + 3 else month - 9
      let year := day.year + cycle * 400
      ⟨if civil ≤ 2 then year + 1 else year, civil.toNat,
        (day.days - daysBeforeMonth month + 1).toNat⟩ := by
    simp only [ofDayNumber, Int.sub_add_cancel, cycles, number, day.year_eq, days]
  obtain ⟨least, greatest, begun, before⟩ := month_range days_range.1 days_range.2
  obtain ⟨civil_pos, civil_le, counted⟩ := civilMonth_range ⟨least, greatest⟩
  rw [date]
  generalize (5 * day.days + 2) / 153 = month at *
  simp only at civil_pos civil_le counted ⊢
  generalize (if month < 10 then month + 3 else month - 9) = civil at *
  have month_eq : (((civil.toNat + 9) % 12 : ℕ) : ℤ) = month := by omega
  have next : (((civil.toNat + 9) % 12 + 1 : ℕ) : ℤ) = month + 1 := by omega
  constructor
  · simp only
    omega
  · have same : civil.toNat ≤ 2 ↔ civil ≤ 2 := by omega
    simp only [same]
  · simp only [month_eq]
    omega
  · simp only
    omega
  · simp only [next]
    exact before

/-- Every day number is that of a day of some cycle. -/
theorem exists_cycleDay (n : ℤ) :
    ∃ (cycle : ℤ) (day : CycleDay), n = cycle * 146097 + day.number - marchOfYearZero := by
  obtain ⟨day, number⟩ := CycleDay.exists_number (n := (n + marchOfYearZero) % 146097) (by omega) (by omega)
  exact ⟨(n + marchOfYearZero) / 146097, day, by omega⟩

namespace IsDateOf

variable {date : CivilDate} {year day : ℤ}

/-- The day number of a date counts from its year and its day in this year. -/
theorem dayNumber_eq (dated : date.IsDateOf year day) :
    date.dayNumber = daysBeforeYear year + day - marchOfYearZero := by
  obtain ⟨-, year_eq, day_eq, -, -⟩ := dated
  have year_eq' : (if date.month ≤ 2 then date.year - 1 else date.year) = year := by
    split_ifs at * <;> omega
  simp only [dayNumber, year_eq']
  omega

/-- January and February begin 306 days after the first of March. -/
theorem month_le_two_iff (dated : date.IsDateOf year day) : date.month ≤ 2 ↔ 306 ≤ day := by
  obtain ⟨⟨month_pos, month_le⟩, -, day_eq, day_pos, day_lt⟩ := dated
  unfold daysBeforeMonth at day_eq day_lt
  omega

/-- The supported days lie in the supported years. -/
theorem year_range (dated : date.IsDateOf year day) (days : 0 ≤ day ∧ day ≤ 365)
    (least : -96465292 ≤ date.dayNumber) (greatest : date.dayNumber ≤ 95026236) :
    firstYear ≤ date.year ∧ date.year ≤ lastYear := by
  rw [dated.dayNumber_eq, marchOfYearZero] at least greatest
  have year_eq := dated.year_eq
  have month := dated.month_le_two_iff
  -- Only January and February are supported of the first year counted from March, and not of the last one.
  have first : -262144 ≤ year := by
    by_contra less
    have before := daysBeforeYear_mono (show year ≤ -262145 by omega)
    have value : daysBeforeYear (-262145) = -95746496 := rfl
    omega
  have last : year ≤ 262142 := by
    by_contra greater
    have after := daysBeforeYear_mono (show 262143 ≤ year by omega)
    have value : daysBeforeYear 262143 = 95745764 := rfl
    omega
  have first_day : year = -262144 → 306 ≤ day := by
    rintro rfl
    have value : daysBeforeYear (-262144) = -95746130 := rfl
    omega
  have last_day : year = 262142 → day < 306 := by
    rintro rfl
    have value : daysBeforeYear 262142 = 95745399 := rfl
    omega
  unfold firstYear lastYear
  split_ifs at year_eq <;> omega

/-- A month has as many days as there are from its beginning to that of the next one, and February has one
day more if the year of 366 days ends in it. -/
theorem day_le (dated : date.IsDateOf year day)
    (leap : day ≤ 364 ∨ day = 365 ∧ isLeapYear (year + 1) = true) :
    date.day ≤ daysInMonth date.year date.month := by
  obtain ⟨⟨month_pos, month_le⟩, year_eq, day_eq, -, day_lt⟩ := dated
  unfold daysBeforeMonth at day_eq day_lt
  generalize date.month = month at *
  interval_cases month <;> simp [daysInMonth] at * <;> grind

end IsDateOf

/-- **The number of the date of a number** is that number again. -/
theorem dayNumber_ofDayNumber (n : ℤ) : (ofDayNumber n).dayNumber = n := by
  obtain ⟨cycle, day, rfl⟩ := exists_cycleDay n
  rw [(ofDayNumber_cycleDay cycle day).dayNumber_eq, daysBeforeYear_cycles, day.number_eq]
  ring

/-- **The date of a number exists**, and it lies in the supported years if the number lies in their days. -/
theorem valid_ofDayNumber {n : ℤ} (least : -96465292 ≤ n) (greatest : n ≤ 95026236) :
    (ofDayNumber n).Valid := by
  have number := dayNumber_ofDayNumber n
  obtain ⟨cycle, day, rfl⟩ := exists_cycleDay n
  have dated := ofDayNumber_cycleDay cycle day
  have leap : day.days ≤ 364 ∨
      day.days = 365 ∧ isLeapYear (day.year + cycle * 400 + 1) = true := by
    rcases day.days_range with few | ⟨all, -⟩
    · exact Or.inl few
    · exact Or.inr ⟨all, day.isLeapYear_succ_year all cycle⟩
  have days : 0 ≤ day.days ∧ day.days ≤ 365 := by
    have := day.days_nonneg
    omega
  have year := dated.year_range days (number.symm ▸ least) (number.symm ▸ greatest)
  exact ⟨year.1, year.2, dated.month_range.1, dated.month_range.2, dated.day_pos, dated.day_le leap⟩

end Intake.CivilDate
