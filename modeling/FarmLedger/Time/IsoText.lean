/-
# FarmLedger.Time.IsoText — timestamps as text

A timestamp is written `YYYY-MM-DDTHH:MM:SS`, then a point and six digits if there are
microseconds, then the distance from UTC as a sign, hours and minutes, with seconds and a fraction
only where there are any. `isoZulu` writes UTC as a `Z`.

Messages show a timestamp without a distance in a longer form, as a constructor with its parts.
-/
import FarmLedger.Number.Digits
import FarmLedger.Time.Calendar
import FarmLedger.Time.Timestamp

namespace FarmLedger.Time

open FarmLedger.Number

/-- A point and six digits, or nothing for zero. -/
def fractionChars (micros : Nat) : List Char :=
  if micros = 0 then [] else '.' :: fixedDigits 6 micros

/-- The date as `YYYY-MM-DD`. -/
def Date.isoChars (d : Date) : List Char :=
  fixedDigits 4 d.year ++ '-' :: fixedDigits 2 d.month ++ '-' :: fixedDigits 2 d.day

/-- The time of the day as `HH:MM:SS` with its fraction. -/
def Moment.clockChars (m : Moment) : List Char :=
  fixedDigits 2 m.hour ++ ':' :: fixedDigits 2 m.minute ++ ':' :: fixedDigits 2 m.second
    ++ fractionChars m.microsecond

/-- The distance from UTC as `+HH:MM`, with seconds and a fraction where there are any. -/
def Offset.isoChars (o : Offset) : List Char :=
  let size := o.micros.natAbs
  let (seconds, micros) := (size / microsPerSecond, size % microsPerSecond)
  let short := (if o.micros < 0 then '-' else '+')
    :: fixedDigits 2 (seconds / 3600) ++ ':' :: fixedDigits 2 (seconds / 60 % 60)
  if seconds % 60 = 0 ∧ micros = 0 then short
  else short ++ ':' :: fixedDigits 2 (seconds % 60) ++ fractionChars micros

namespace Timestamp

def isoChars (t : Timestamp) : List Char :=
  t.wall.date.isoChars ++ 'T' :: t.wall.clockChars ++ t.offset.elim [] Offset.isoChars

def iso (t : Timestamp) : String :=
  String.ofList t.isoChars

/-- The timestamp in UTC as text that ends with a `Z`. -/
def isoZulu (t : Timestamp) : Except TimestampFault String :=
  t.toUtc.map fun moment =>
    String.ofList ((Timestamp.isoChars ⟨moment, none⟩) ++ ['Z'])

/-- The parts of what the clock shows, as messages write them: seconds and microseconds only as
far as they are needed. -/
def inMessage (t : Timestamp) : String :=
  let date := t.wall.date
  let (second, micros) := (t.wall.second, t.wall.microsecond)
  let tail :=
    if micros ≠ 0 then [second, micros] else if second ≠ 0 then [second] else []
  let parts := [date.year, date.month, date.day, t.wall.hour, t.wall.minute] ++ tail
  "datetime.datetime(" ++ ", ".intercalate (parts.map toString) ++ ")"

end Timestamp

def TimestampFault.message : TimestampFault → String
  | .outOfCalendar => "date value out of range"
  | .noOffset stamp => "Naive datetime is not allowed for UTC column: " ++ stamp.inMessage

def Moment.iso (m : Moment) : String :=
  (Timestamp.ofUtc m).iso

end FarmLedger.Time
