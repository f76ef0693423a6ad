/-
# FarmLedger.Time.Calendar — years, months and weeks

Dates of the Gregorian calendar and the days since its beginning. `Date.dayNumber` counts the days
before a date and `Date.ofDayNumber` finds the date again; a date may also be named by its week:
the first week of a year is the one with its first Thursday, and weeks begin on Monday.
-/
import FarmLedger.Time.Moment

namespace FarmLedger.Time

/-- The year has a 29th of February. -/
def isLeapYear (year : Nat) : Bool :=
  year % 4 = 0 && (year % 100 ≠ 0 || year % 400 = 0)

/-- The days before a year, counted from the year 1. -/
def daysBeforeYear (year : Nat) : Nat :=
  let past := year - 1
  365 * past + past / 4 - past / 100 + past / 400

def monthLengths (leap : Bool) : List Nat :=
  [31, if leap then 29 else 28, 31, 30, 31, 30, 31, 31, 30, 31, 30, 31]

/-- A year, a month and a day of the month, each counted from 1. -/
structure Date where
  year : Nat
  month : Nat
  day : Nat
  deriving DecidableEq, Repr

namespace Date

/-- The calendar has the date. -/
def isValid (d : Date) : Bool :=
  1 ≤ d.year && d.year ≤ 9999 && 1 ≤ d.month && 1 ≤ d.day
    && ((monthLengths (isLeapYear d.year))[d.month - 1]?).any (d.day ≤ ·)

/-- The days before a date, counted from the beginning of the year 1. -/
def dayNumber (d : Date) : Nat :=
  let months := (monthLengths (isLeapYear d.year)).take (d.month - 1)
  daysBeforeYear d.year + months.foldl (· + ·) 0 + (d.day - 1)

/-- The year of a day and the days of that year before it. Years come in groups of 400, 100 and 4
of equal length, where only the last member of a group may be a day longer. -/
def yearOfDayNumber (days : Nat) : Nat × Nat :=
  let (groups400, in400) := (days / 146097, days % 146097)
  let groups100 := min (in400 / 36524) 3
  let in100 := in400 - groups100 * 36524
  let (groups4, in4) := (in100 / 1461, in100 % 1461)
  let years := min (in4 / 365) 3
  (groups400 * 400 + groups100 * 100 + groups4 * 4 + years + 1, in4 - years * 365)

/-- The month, counted from `month`, and the day of the month that lie so many days after the
start. -/
def monthOfDay : (lengths : List Nat) → (month days : Nat) → Nat × Nat
  | [], month, days => (month, days + 1)
  | length :: lengths, month, days =>
    if days < length then (month, days + 1) else monthOfDay lengths (month + 1) (days - length)

/-- The date with so many days before it. -/
def ofDayNumber (days : Nat) : Date :=
  let (year, inYear) := yearOfDayNumber days
  let (month, day) := monthOfDay (monthLengths (isLeapYear year)) 1 inYear
  ⟨year, month, day⟩

/-- The day of the week of a day, Monday being 0. -/
def weekday (dayNumber : Nat) : Nat := dayNumber % 7

/-- The Monday of the first week of a year; it may lie before the beginning of the year 1. -/
def firstMonday (year : Nat) : Int :=
  let newYear : Int := daysBeforeYear year
  let dayOfWeek := weekday (daysBeforeYear year)
  if dayOfWeek ≤ 3 then newYear - dayOfWeek else newYear - dayOfWeek + 7

/-- The number of weeks of a year: 53 if it starts on a Thursday, or on a Wednesday in a leap
year. -/
def weeksOfYear (year : Nat) : Nat :=
  let dayOfWeek := weekday (daysBeforeYear year)
  if dayOfWeek = 3 || (dayOfWeek = 2 && isLeapYear year) then 53 else 52

/-- The date of a day of a week of a year. -/
def ofWeek? (year week day : Nat) : Option Date :=
  if year = 0 || week = 0 || weeksOfYear year < week || day = 0 || 7 < day then none
  else
    let dayNumber := firstMonday year + 7 * (week - 1 : Nat) + (day - 1 : Nat)
    if dayNumber < 0 then none else some (ofDayNumber dayNumber.toNat)

end Date

namespace Moment

def date (m : Moment) : Date := Date.ofDayNumber m.day

/-- A date of the calendar and a time of the day. -/
def ofParts? (date : Date) (hour minute second microsecond : Nat) : Option Moment :=
  if date.isValid && hour < 24 && minute < 60 && second < 60 && microsecond < microsPerSecond then
    ofMicros? (date.dayNumber * microsPerDay
      + ((hour * 60 + minute) * 60 + second) * microsPerSecond + microsecond : Nat)
  else none

end Moment

end FarmLedger.Time
