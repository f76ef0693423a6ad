/-
# FarmLedger.Time.Moment — readings of calendar and clock

A `Moment` is a reading of a calendar and a clock, from the first microsecond of the year 1 to the
last one of the year 9999, in the Gregorian calendar carried back to the beginning. It is held as
the number of microseconds since the beginning, so that comparing readings is comparing numbers.

A moment alone says nothing about where the clock hangs: the ledger keeps its own moments in UTC,
and `FarmLedger.Time.Timestamp` adds the distance of other clocks from it.
-/
namespace FarmLedger.Time

abbrev microsPerSecond : Nat := 1000000

abbrev microsPerDay : Nat := 86400 * microsPerSecond

/-- Days from the beginning of the year 1 to the end of the year 9999. -/
abbrev daysOfCalendar : Nat := 3652059

/-- A reading of calendar and clock. -/
structure Moment where
  /-- Microseconds since the beginning of the year 1. -/
  micros : Nat
  inCalendar : micros < daysOfCalendar * microsPerDay
  deriving DecidableEq, Repr

namespace Moment

instance : LE Moment := ⟨fun a b => a.micros ≤ b.micros⟩
instance : LT Moment := ⟨fun a b => a.micros < b.micros⟩
instance (a b : Moment) : Decidable (a ≤ b) := inferInstanceAs (Decidable (a.micros ≤ b.micros))
instance (a b : Moment) : Decidable (a < b) := inferInstanceAs (Decidable (a.micros < b.micros))

/-- The moment that many microseconds after the beginning, if the calendar has it. -/
def ofMicros? (micros : Int) : Option Moment :=
  if h : 0 ≤ micros ∧ micros < daysOfCalendar * microsPerDay then
    some ⟨micros.toNat, by omega⟩
  else none

def day (m : Moment) : Nat := m.micros / microsPerDay

/-- The microseconds of the day that are over. -/
def timeOfDay (m : Moment) : Nat := m.micros % microsPerDay

def hour (m : Moment) : Nat := m.timeOfDay / (3600 * microsPerSecond)
def minute (m : Moment) : Nat := m.timeOfDay / (60 * microsPerSecond) % 60
def second (m : Moment) : Nat := m.timeOfDay / microsPerSecond % 60
def microsecond (m : Moment) : Nat := m.timeOfDay % microsPerSecond

/-- The days from the beginning of the year 1 to that of the year 1970. -/
def epochDay : Nat := 719162

/-- Microseconds since the beginning of the year 1970. -/
def sinceEpoch (m : Moment) : Int :=
  (m.micros : Int) - epochDay * microsPerDay

end Moment

end FarmLedger.Time
