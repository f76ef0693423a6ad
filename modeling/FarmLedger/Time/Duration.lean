/-
# FarmLedger.Time.Duration — spans of time

A duration is a whole number of microseconds, at most 999999999 days either way. A number of
seconds becomes a duration by taking its whole seconds exactly and rounding its fraction to the
nearest microsecond. Adding a duration to a moment may leave the calendar, and then fails.
-/
import FarmLedger.Number.Binary64
import FarmLedger.Time.Timestamp

namespace FarmLedger.Time

open FarmLedger.Number

structure Duration where
  micros : Int
  deriving DecidableEq, Repr

inductive DurationFault
  /-- More days than a duration may have. -/
  | tooManyDays (days : Int)
  /-- More days than a count of days can hold. -/
  | uncountableDays
  | infinite
  | notANumber
  deriving DecidableEq, Repr

def DurationFault.message : DurationFault → String
  | .tooManyDays days => "days=" ++ toString days ++ "; must have magnitude <= 999999999"
  | .uncountableDays => "Python int too large to convert to C int"
  | .infinite => "cannot convert float infinity to integer"
  | .notANumber => "cannot convert float NaN to integer"

namespace Duration

/-- Whole days, rounded down. -/
def days (d : Duration) : Int := d.micros.fdiv microsPerDay

/-- Whole seconds of the last day. -/
def seconds (d : Duration) : Int := d.micros.fmod microsPerDay / microsPerSecond

/-- Microseconds of the last second. -/
def microseconds (d : Duration) : Int := d.micros.fmod microsPerSecond

def dayLimit : Nat := 999999999

def ofMicros (micros : Int) : Except DurationFault Duration :=
  let days := Duration.days ⟨micros⟩
  if days < -(Nat.pow 2 31 : Int) ∨ (Nat.pow 2 31 : Int) ≤ days then .error .uncountableDays
  else if dayLimit < days.natAbs then .error (.tooManyDays days)
  else .ok ⟨micros⟩

def ofWholeSeconds (seconds : Int) : Except DurationFault Duration :=
  ofMicros (seconds * microsPerSecond)

/-- A number of seconds, to the nearest microsecond. -/
def ofSeconds (seconds : Float) : Except DurationFault Duration :=
  if seconds.isNaN then .error .notANumber
  else if !seconds.isFinite then .error .infinite
  else
    ofMicros (truncate seconds * microsPerSecond
      + nearestInt (fraction seconds * Float.ofNat microsPerSecond))

end Duration

/-- The moment a duration later. -/
def Moment.add (m : Moment) (d : Duration) : Except TimestampFault Moment :=
  match Moment.ofMicros? (m.micros + d.micros) with
  | some moment => .ok moment
  | none => .error .outOfCalendar

/-- What the same clock shows a duration later. -/
def Timestamp.add (t : Timestamp) (d : Duration) : Except TimestampFault Timestamp :=
  (t.wall.add d).map fun wall => { t with wall }

end FarmLedger.Time
