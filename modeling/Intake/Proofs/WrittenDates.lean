import Intake.Proofs.CivilDates
import Intake.Proofs.Numerals

/-!
# Points in time in writing

The text of a point in time is an internet timestamp, so the first of the notations of dates reads it
(`Instant.read?_text`). Each number in the text has a fixed width and is read to its last digit, however many
digits follow (`Calendar.number?_padded`); the fraction has the least width that is exact. The date and the
time of day that are read make the instant again (`Instant.ofLocal?_date_time`): a leap second at the end of
a minute has been written as the second 60 and is kept in the nanoseconds. Anywhere else it is written as the
second that follows, and that is what its text stands for (`Instant.carried`). Only years of four digits can
be read back, for other years are written with a sign.
-/

set_option autoImplicit false

namespace Intake

open Intake.Text

/-! ## Numbers of fixed width -/

namespace Text

/-- A number below a power of ten has no more digits than the power says. -/
theorem length_digits_le {n width : ℕ} (positive : 0 < width) (small : n < 10 ^ width) :
    (digits n).length ≤ width := by
  induction width generalizing n with
  | zero => cases positive
  | succ width ih =>
    rw [digits]
    split
    · simp
    · rename_i large
      rw [List.length_append, List.length_singleton, Nat.add_le_add_iff_right]
      apply ih
      · by_contra zero
        obtain rfl : width = 0 := by omega
        omega
      · rw [pow_succ] at small
        omega

/-- A number that is not too large has exactly the width it is written in. -/
theorem length_padded {n width : ℕ} (positive : 0 < width) (small : n < 10 ^ width) :
    (padded width n).length = width := by
  have short := length_digits_le positive small
  simp only [padded, List.length_append, List.length_replicate]
  omega

/-- A number of fixed width has digits only. -/
theorem isDigit_of_mem_padded {n width : ℕ} {c : Char} (member : c ∈ padded width n) :
    isDigit c = true := by
  rcases List.mem_append.mp member with zero | digit
  · rw [List.eq_of_mem_replicate zero]
    rfl
  · exact isDigit_of_mem_digits digit

/-- Zeros before digits count nothing. -/
theorem ofDigits_replicate_append (count : ℕ) (cs : List Char) :
    ofDigits (List.replicate count '0' ++ cs) = ofDigits cs := by
  induction count with
  | zero => rfl
  | succ count ih =>
    have zero : digitValue '0' = 0 := rfl
    rw [List.replicate_succ, List.cons_append, ofDigits_cons, zero, ih, Nat.zero_mul, Nat.zero_add]

/-- Zeros before a number do not change it. -/
theorem ofDigits_padded (width n : ℕ) : ofDigits (padded width n) = n := by
  rw [padded, ofDigits_replicate_append, ofDigits_digits]

end Text

namespace Calendar

variable {n width : ℕ}

/-- A number of fixed width is read to its last digit, whatever follows. -/
theorem number?_padded (positive : 0 < width) (small : n < 10 ^ width) (rest : List Char) :
    number? width width (padded width n ++ rest) = some (n, rest) := by
  have length := length_padded positive small
  have digits : (padded width n).takeWhile isDigit = padded width n :=
    List.takeWhile_eq_self_iff.mpr fun c => isDigit_of_mem_padded
  have taken : (padded width n ++ rest).take width = padded width n := List.take_left' length
  have dropped : (padded width n ++ rest).drop width = rest := List.drop_left' length
  simp only [number?, taken, digits, length, Nat.lt_irrefl, if_false, ofDigits_padded, dropped]

/-- A mark is read where it stands. -/
theorem mark?_cons (c : Char) (cs : List Char) : mark? c (c :: cs) = some cs :=
  if_pos rfl

/-- A fraction of so many digits is read as nanoseconds. -/
theorem fraction?_padded (positive : 0 < width) (most : width ≤ 9) (small : n < 10 ^ width)
    {rest : List Char} (stop : ∀ c ∈ rest.head?, isDigit c = false) :
    fraction? ('.' :: (padded width n ++ rest)) = some (n * 10 ^ (9 - width), rest) := by
  have length := length_padded positive small
  have nonempty : padded width n ≠ [] := List.ne_nil_of_length_pos (by omega)
  have span : spanDigits (padded width n ++ rest) = (padded width n, rest) :=
    spanDigits_append (fun c => isDigit_of_mem_padded) stop
  have kept : (padded width n).take 9 = padded width n := List.take_of_length_le (by omega)
  simp only [fraction?, span, kept, if_neg nonempty, ofDigits_padded, length, Nat.pow_eq]

/-- **Fractions of a second** are read exactly, in whichever width they are written. -/
theorem fraction?_fractionText {nanos : ℕ} (small : nanos < 1000000000) :
    fraction? (Instant.fractionText nanos ++ ['Z']) = some (nanos, ['Z']) := by
  have stop : ∀ c ∈ ['Z'].head?, isDigit c = false := by
    rintro c ⟨⟩
    rfl
  unfold Instant.fractionText
  split_ifs with zero millis micros
  · rw [zero]
    rfl
  · rw [List.cons_append, fraction?_padded (by decide) (by decide) (by omega) stop]
    congr 2
    omega
  · rw [List.cons_append, fraction?_padded (by decide) (by decide) (by omega) stop]
    congr 2
    omega
  · rw [List.cons_append, fraction?_padded (by decide) (by decide) (by omega) stop]
    congr 2
    omega

end Calendar

/-! ## Dates and times of day -/

namespace Instant

variable (t : Instant)

/-- The date of an instant is a date of the calendar. -/
theorem valid_date : t.date.Valid := by
  obtain ⟨least, greatest, -⟩ := t.valid
  exact CivilDate.valid_ofDayNumber (by omega) (by omega)

/-- The date of an instant is that of its day. -/
theorem dayNumber_date : t.date.dayNumber = t.seconds / 86400 :=
  CivilDate.dayNumber_ofDayNumber _

/-- The parts of the time of day are in their ranges. -/
theorem time_range : t.time.hour ≤ 23 ∧ t.time.minute ≤ 59 ∧ t.time.second ≤ 60 ∧
    t.time.nanos < 1000000000 := by
  obtain ⟨-, -, nanos⟩ := t.valid
  simp only [time]
  omega

/-- The second 60 is a leap second at the end of a minute. -/
theorem second_eq_iff : t.time.second = 60 ↔ 1000000000 ≤ t.nanos ∧ t.seconds % 60 = 59 := by
  obtain ⟨-, -, nanos⟩ := t.valid
  simp only [time]
  omega

/-- A regular instant is made of its second and its nanoseconds. -/
theorem ofSeconds?_of_regular {t : Instant} (regular : t.IsRegular) :
    ofSeconds? t.seconds t.nanos = some t := by
  rw [ofSeconds?, dif_pos t.valid]
  exact if_pos regular

/-- The instant that the text of an instant stands for. A leap second within a minute is written as the
second after it, and stands for that. -/
def carried : Instant :=
  if stray : 1000000000 ≤ t.nanos ∧ t.seconds % 60 ≠ 59 then
    ⟨t.seconds + 1, t.nanos - 1000000000, by
      obtain ⟨least, greatest, nanos⟩ := t.valid
      omega⟩
  else t

/-- The second of the instant that a text stands for. -/
theorem carried_seconds : t.carried.seconds
    = if 1000000000 ≤ t.nanos ∧ t.seconds % 60 ≠ 59 then t.seconds + 1 else t.seconds := by
  unfold carried
  split_ifs <;> rfl

/-- The nanoseconds of the instant that a text stands for. -/
theorem carried_nanos : t.carried.nanos
    = if 1000000000 ≤ t.nanos ∧ t.seconds % 60 ≠ 59 then t.nanos - 1000000000 else t.nanos := by
  unfold carried
  split_ifs <;> rfl

/-- Texts stand for regular instants. -/
theorem isRegular_carried : t.carried.IsRegular := by
  obtain ⟨-, -, nanos⟩ := t.valid
  rw [IsRegular, carried_nanos, carried_seconds]
  split_ifs <;> omega

/-- **The date and the time of day make the instant** that they stand for. -/
theorem ofLocal?_date_time : ofLocal? t.date t.time 0 = some t.carried := by
  obtain ⟨hour, minute, second, -⟩ := t.time_range
  have in_range : t.date.Valid ∧ t.time.isValid = true := by
    refine ⟨t.valid_date, ?_⟩
    simp only [TimeOfDay.isValid, hour, minute, second, decide_true, Bool.and_self]
  have seconds : t.date.dayNumber * 86400 + (t.time.hour : ℤ) * 3600 + (t.time.minute : ℤ) * 60
      + (min t.time.second 59 : ℕ) - 0 * 60 = t.carried.seconds := by
    obtain ⟨-, -, nanos⟩ := t.valid
    rw [dayNumber_date, carried_seconds]
    simp only [time]
    split_ifs <;> omega
  have nanos : t.time.nanos + (if t.time.second = 60 then 1000000000 else 0) = t.carried.nanos := by
    obtain ⟨-, -, nanos⟩ := t.valid
    have nanos_eq : t.time.nanos = t.nanos % 1000000000 := rfl
    simp only [second_eq_iff, nanos_eq, carried_nanos]
    split_ifs <;> omega
  rw [ofLocal?, if_pos in_range]
  simp only [seconds, nanos]
  exact ofSeconds?_of_regular t.isRegular_carried

/-! ## The text of an instant -/

/-- An instant in a year of four digits begins with a digit of this year and ends in `Z`. -/
theorem text_eq {t : Instant} (year : 0 ≤ t.date.year ∧ t.date.year ≤ 9999) :
    t.text = padded 4 t.date.year.toNat ++ '-' :: (padded 2 t.date.month ++ '-' :: (padded 2 t.date.day
      ++ 'T' :: (padded 2 t.time.hour ++ ':' :: (padded 2 t.time.minute ++ ':' :: (padded 2 t.time.second
      ++ (fractionText t.time.nanos ++ ['Z'])))))) := by
  simp [text, yearText, year]

/-- **The text of an instant is read** as an internet timestamp, if its year has four digits. -/
theorem read?_text {t : Instant} (year : 0 ≤ t.date.year ∧ t.date.year ≤ 9999) :
    Calendar.Rfc3339.read? t.text = some t.carried := by
  obtain ⟨-, -, -, month, -, day⟩ := t.valid_date
  obtain ⟨hour, minute, second, nanos⟩ := t.time_range
  have month_days : CivilDate.daysInMonth t.date.year t.date.month ≤ 31 := by
    unfold CivilDate.daysInMonth
    split_ifs <;> decide
  have four {n : ℕ} (small : n ≤ 9999) (rest : List Char) :
      Calendar.number? 4 4 (padded 4 n ++ rest) = some (n, rest) :=
    Calendar.number?_padded (by decide) (by omega) rest
  have two {n : ℕ} (small : n ≤ 99) (rest : List Char) :
      Calendar.number? 2 2 (padded 2 n ++ rest) = some (n, rest) :=
    Calendar.number?_padded (by decide) (by omega) rest
  have separator (cs : List Char) : Calendar.Rfc3339.separator? ('T' :: cs) = some cs := rfl
  have offset : Calendar.Rfc3339.offset? ['Z'] = some (0, []) := rfl
  have step {α β : Type} {part : Option α} {next : α → Option β} {a : α} {b : β} (read : part = some a)
      (others : next a = some b) : (part >>= next) = some b := by rw [read]; exact others
  rw [text_eq year, Calendar.Rfc3339.read?]
  -- Field by field, with the mark that follows it.
  refine step (four (by omega) _) (step (Calendar.mark?_cons _ _) ?_)
  refine step (two (by omega) _) (step (Calendar.mark?_cons _ _) ?_)
  refine step (two (by omega) _) (step (separator _) ?_)
  refine step (two (by omega) _) (step (Calendar.mark?_cons _ _) ?_)
  refine step (two (by omega) _) (step (Calendar.mark?_cons _ _) ?_)
  refine step (two (by omega) _) (step (Calendar.fraction?_fractionText nanos) (step offset ?_))
  simp only [if_true, Int.toNat_of_nonneg year.1]
  exact t.ofLocal?_date_time

/-- There are no blanks around the text of an instant. -/
theorem trim_text {t : Instant} (year : 0 ≤ t.date.year ∧ t.date.year ≤ 9999) : trim t.text = t.text := by
  have nonempty : padded 4 t.date.year.toNat ≠ [] :=
    List.ne_nil_of_length_pos (by rw [length_padded (by decide) (by omega)]; decide)
  obtain ⟨c, cs, shown⟩ := List.exists_cons_of_ne_nil nonempty
  have digit : isDigit c = true := isDigit_of_mem_padded (shown ▸ List.mem_cons_self)
  have ends : t.text.getLast? = some 'Z' := List.getLast?_concat
  apply trim_eq_self
  · rw [text_eq year, shown]
    rintro _ ⟨⟩
    exact isBlank_of_isDigit digit
  · rw [ends]
    rintro _ ⟨⟩
    rfl

end Instant

/-- The first of the notations of dates is the one in which instants are written. -/
theorem Calendar.read?_text {t : Instant} (year : 0 ≤ t.date.year ∧ t.date.year ≤ 9999) :
    Calendar.read? (String.ofList t.text) = some t.carried := by
  rw [Calendar.read?, String.toList_ofList, Instant.trim_text year, Calendar.notations,
    List.findSome?_cons, Instant.read?_text year]

/-- A string that is the text of an instant is taken as the instant that this text stands for. -/
theorem Coercion.date_text {t : Instant} (year : 0 ≤ t.date.year ∧ t.date.year ≤ 9999) :
    Coercion.date (.string (String.ofList t.text)) = .ok (.date t.carried) := by
  rw [Coercion.date, Coercion.instant?, Calendar.read?_text year]
  rfl

/-- A leap second after 23:56:04, and a third of a second in it. -/
def strayLeapSecond : Instant := ⟨1715990164, 1333333333, by decide⟩

/-- A leap second within a minute does not survive its text, which is that of the second after it. -/
theorem strayLeapSecond_moves :
    0 ≤ strayLeapSecond.date.year ∧ strayLeapSecond.date.year ≤ 9999 ∧
      ¬ strayLeapSecond.IsRegular ∧
      Coercion.string (.date strayLeapSecond) = .ok (.string "2024-05-17T23:56:05.333333333Z") ∧
      Coercion.date (.string "2024-05-17T23:56:05.333333333Z")
        = .ok (.date ⟨1715990165, 333333333, by decide⟩) := by
  have year : 0 ≤ strayLeapSecond.date.year ∧ strayLeapSecond.date.year ≤ 9999 := by decide
  have text : String.ofList strayLeapSecond.text = "2024-05-17T23:56:05.333333333Z" := by
    cbv
  have carried : strayLeapSecond.carried = ⟨1715990165, 333333333, by decide⟩ := rfl
  refine ⟨year.1, year.2, by decide, ?_, ?_⟩
  · rw [← text]
    rfl
  · rw [← text, Coercion.date_text year, carried]

end Intake
