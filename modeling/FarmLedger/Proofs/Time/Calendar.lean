/-
# FarmLedger.Proofs.Time.Calendar — every day has its date

`Date.ofDayNumber` takes a day apart into the groups of years that it lies in, and what is left of
it into months. Put together again the parts are the day (`Date.dayNumber_ofDayNumber`), and up to
the end of the year 9999 they are a date of the calendar (`Date.isValid_ofDayNumber`). So a moment
is given back by its date and its time of the day (`Moment.ofParts?_parts`).
-/
import FarmLedger.Proofs.Time.Moment
import FarmLedger.Time.Calendar
import Mathlib.Algebra.Ring.Nat

namespace FarmLedger.Time

namespace Date

/-! ## Years -/

def daysOfYear (year : Nat) : Nat :=
  if isLeapYear year then 366 else 365

theorem isLeapYear_iff (year : Nat) :
    isLeapYear year = true ↔ year % 4 = 0 ∧ (year % 100 ≠ 0 ∨ year % 400 = 0) := by
  simp [isLeapYear]

/-- The place of a year in its groups of 400, 100 and 4. -/
structure Groups where
  groups400 : Nat
  groups100 : Nat
  groups4 : Nat
  years : Nat
  groups100_le : groups100 ≤ 3
  groups4_le : groups4 ≤ 24
  years_le : years ≤ 3

namespace Groups

def year (place : Groups) : Nat :=
  place.groups400 * 400 + place.groups100 * 100 + place.groups4 * 4 + place.years + 1

theorem daysBeforeYear_eq (place : Groups) :
    daysBeforeYear place.year = place.groups400 * 146097 + place.groups100 * 36524 +
      place.groups4 * 1461 + place.years * 365 := by
  have := place.groups100_le
  have := place.groups4_le
  have := place.years_le
  simp only [daysBeforeYear, year, Nat.add_sub_cancel]
  omega

/-- The last year of four is longer, unless it is the last of a hundred but not of four hundred. -/
theorem daysOfYear_eq (place : Groups) : daysOfYear place.year =
    if place.years = 3 ∧ (place.groups4 = 24 → place.groups100 = 3) then 366 else 365 := by
  have := place.groups100_le
  have := place.groups4_le
  have := place.years_le
  unfold daysOfYear
  refine if_congr ((isLeapYear_iff _).trans ?_) rfl rfl
  unfold year
  omega

end Groups

/-- The year of a day begins so many days before it, and has not ended yet. -/
theorem yearOfDayNumber_spec (days : Nat) :
    ∃ place : Groups, (yearOfDayNumber days).1 = place.year ∧
      daysBeforeYear place.year + (yearOfDayNumber days).2 = days ∧
      (yearOfDayNumber days).2 < daysOfYear place.year := by
  refine ⟨⟨days / 146097, min (days % 146097 / 36524) 3,
    (days % 146097 - min (days % 146097 / 36524) 3 * 36524) / 1461,
    min ((days % 146097 - min (days % 146097 / 36524) 3 * 36524) % 1461 / 365) 3,
    by omega, by omega, by omega⟩, rfl, ?_, ?_⟩
  · rw [Groups.daysBeforeYear_eq]
    simp only [yearOfDayNumber]
    omega
  · rw [Groups.daysOfYear_eq]
    simp only [yearOfDayNumber]
    split <;> omega

theorem yearOfDayNumber_le {days : Nat} (within : days < 3652059) :
    (yearOfDayNumber days).1 ≤ 9999 := by
  obtain ⟨place, same, past, _⟩ := yearOfDayNumber_spec days
  rw [same]
  rw [Groups.daysBeforeYear_eq] at past
  have := place.groups100_le
  have := place.groups4_le
  have := place.years_le
  unfold Groups.year
  omega

/-! ## Months -/

/-- The month of a day begins so many days before it, and has not ended yet. -/
theorem monthOfDay_spec {lengths : List Nat} (month : Nat) {days : Nat}
    (within : days < lengths.sum) :
    ∃ past length, (monthOfDay lengths month days).1 = month + past ∧
      lengths[past]? = some length ∧ 1 ≤ (monthOfDay lengths month days).2 ∧
      (monthOfDay lengths month days).2 ≤ length ∧
      (lengths.take past).sum + ((monthOfDay lengths month days).2 - 1) = days := by
  induction lengths generalizing month days with
  | nil => cases within
  | cons length lengths ih =>
    rw [List.sum_cons] at within
    unfold monthOfDay
    split
    · next first => exact ⟨0, length, rfl, rfl, Nat.le_add_left _ _, first, Nat.zero_add _⟩
    · next later =>
      have left : days - length < lengths.sum := by omega
      obtain ⟨past, own, same, at_, first, last, total⟩ := ih (month + 1) left
      refine ⟨past + 1, own, by rw [same]; omega, at_, first, last, ?_⟩
      rw [List.take_succ_cons, List.sum_cons]
      omega

theorem sum_monthLengths (year : Nat) :
    (monthLengths (isLeapYear year)).sum = daysOfYear year := by
  unfold daysOfYear
  cases isLeapYear year <;> rfl

/-! ## Dates -/

/-- The date of a day has the year in which the day lies, a month of that year that begins so many
days before it, and a day of that month. -/
theorem ofDayNumber_spec (days : Nat) :
    ∃ past length, (ofDayNumber days).year = (yearOfDayNumber days).1 ∧
      (ofDayNumber days).month = 1 + past ∧
      (monthLengths (isLeapYear (ofDayNumber days).year))[past]? = some length ∧
      1 ≤ (ofDayNumber days).day ∧ (ofDayNumber days).day ≤ length ∧
      ((monthLengths (isLeapYear (ofDayNumber days).year)).take past).sum +
        ((ofDayNumber days).day - 1) = (yearOfDayNumber days).2 := by
  obtain ⟨place, same, _, inYear⟩ := yearOfDayNumber_spec days
  rw [← same, ← sum_monthLengths] at inYear
  obtain ⟨past, length, month⟩ := monthOfDay_spec 1 inYear
  exact ⟨past, length, rfl, month⟩

/-- **The date of a day has so many days before it.** -/
theorem dayNumber_ofDayNumber (days : Nat) : (ofDayNumber days).dayNumber = days := by
  obtain ⟨place, same, before, _⟩ := yearOfDayNumber_spec days
  obtain ⟨past, length, year, month, _, _, _, inYear⟩ := ofDayNumber_spec days
  have months : (ofDayNumber days).month - 1 = past := by omega
  unfold dayNumber
  simp only [months, ← List.sum_eq_foldl]
  rw [Nat.add_assoc, inYear, year, same]
  exact before

theorem ofDayNumber_year (days : Nat) : 1 ≤ (ofDayNumber days).year := by
  obtain ⟨place, same, _⟩ := yearOfDayNumber_spec days
  show 1 ≤ (yearOfDayNumber days).1
  rw [same]
  exact Nat.le_add_left _ _

/-- **The days up to the end of the year 9999 have dates of the calendar.** -/
theorem isValid_ofDayNumber {days : Nat} (within : days < 3652059) :
    (ofDayNumber days).isValid = true := by
  obtain ⟨past, length, year, month, at_, first, last, _⟩ := ofDayNumber_spec days
  have months : (ofDayNumber days).month - 1 = past := by omega
  have reach := yearOfDayNumber_le within
  rw [← year] at reach
  simp only [isValid, months, at_, Option.any_some, Bool.and_eq_true, decide_eq_true_eq]
  exact ⟨⟨⟨⟨ofDayNumber_year days, reach⟩, by omega⟩, first⟩, last⟩

/-- Dates of the calendar are written with four and two digits. -/
theorem short_of_isValid {d : Date} (valid : d.isValid = true) :
    d.year < 10 ^ 4 ∧ d.month < 10 ^ 2 ∧ d.day < 10 ^ 2 := by
  simp only [isValid, Bool.and_eq_true, decide_eq_true_eq, Option.any_eq_true] at valid
  obtain ⟨⟨⟨⟨_, year⟩, _⟩, _⟩, length, at_, day⟩ := valid
  have month : d.month - 1 < 12 := (List.getElem?_eq_some_iff.1 at_).1
  have most : ∀ leap, ∀ length ∈ monthLengths leap, length ≤ 31 := by decide
  have := most _ length (List.mem_of_getElem? at_)
  omega

end Date

/-! ## Moments -/

namespace Moment

variable (m : Moment)

theorem day_lt : m.day < 3652059 :=
  (Nat.div_lt_iff_lt_mul (by decide)).2 m.inCalendar

theorem hour_lt : m.hour < 24 := by
  have : m.timeOfDay < 86400000000 := Nat.mod_lt _ (by decide)
  show m.timeOfDay / 3600000000 < 24
  omega

theorem minute_lt : m.minute < 60 :=
  Nat.mod_lt _ (by decide)

theorem second_lt : m.second < 60 :=
  Nat.mod_lt _ (by decide)

theorem microsecond_lt : m.microsecond < microsPerSecond :=
  Nat.mod_lt _ (by decide)

theorem micros_eq : m.micros = m.day * microsPerDay +
    ((m.hour * 60 + m.minute) * 60 + m.second) * microsPerSecond + m.microsecond := by
  show m.micros = m.micros / 86400000000 * 86400000000 +
    ((m.micros % 86400000000 / 3600000000 * 60 + m.micros % 86400000000 / 60000000 % 60) * 60 +
      m.micros % 86400000000 / 1000000 % 60) * 1000000 + m.micros % 86400000000 % 1000000
  omega

/-- **A moment is given back by its parts.** -/
theorem ofParts?_parts :
    ofParts? m.date m.hour m.minute m.second m.microsecond = some m := by
  have valid : m.date.isValid = true := Date.isValid_ofDayNumber m.day_lt
  have day : m.date.dayNumber = m.day := Date.dayNumber_ofDayNumber m.day
  unfold ofParts?
  rw [valid, day, ← m.micros_eq]
  simp only [m.hour_lt, m.minute_lt, m.second_lt, m.microsecond_lt, decide_true, Bool.and_true,
    if_true]
  exact ofMicros?_micros m

end Moment

end FarmLedger.Time
