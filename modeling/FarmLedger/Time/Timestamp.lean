/-
# FarmLedger.Time.Timestamp — clocks and their distance from UTC

A `Timestamp` is what a clock shows together with the clock's distance from UTC, if it is known.
`Timestamp.toUtc` finds the moment in UTC; a clock of unknown distance is taken to show UTC. It
fails where the moment lies outside the calendar, which only the clock's distance can cause.
-/
import FarmLedger.Time.Moment

namespace FarmLedger.Time

/-- How far a clock is ahead of UTC, in microseconds; less than a day either way. -/
structure Offset where
  micros : Int
  isShort : micros.natAbs < microsPerDay
  deriving DecidableEq, Repr

def Offset.zero : Offset := ⟨0, by decide⟩

/-- The offset of so many microseconds, if it is less than a day. -/
def Offset.ofMicros? (micros : Int) : Option Offset :=
  if h : micros.natAbs < microsPerDay then some ⟨micros, h⟩ else none

/-- What a clock shows and how far it is ahead of UTC, if that is known. -/
structure Timestamp where
  wall : Moment
  offset : Option Offset
  deriving DecidableEq, Repr

inductive TimestampFault
  /-- The moment in UTC lies outside the calendar. -/
  | outOfCalendar
  /-- A stored timestamp needs a known distance from UTC. -/
  | noOffset (stamp : Timestamp)
  deriving DecidableEq, Repr

namespace Timestamp

/-- A moment shown by a clock in UTC. -/
def ofUtc (m : Moment) : Timestamp := ⟨m, some .zero⟩

/-- Microseconds from the beginning of the year 1 in UTC; negative before it. -/
def instant (t : Timestamp) : Int :=
  t.wall.micros - (t.offset.elim 0 Offset.micros)

def toUtc (t : Timestamp) : Except TimestampFault Moment :=
  match Moment.ofMicros? t.instant with
  | some moment => .ok moment
  | none => .error .outOfCalendar

def inUtc (t : Timestamp) : Except TimestampFault Timestamp :=
  t.toUtc.map ofUtc

end Timestamp

end FarmLedger.Time
