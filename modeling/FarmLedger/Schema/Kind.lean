/-
# FarmLedger.Schema.Kind — what a column holds

A column holds values of one `Kind`. `Kind.Value` is what the table keeps: moments in UTC, and
lists that may be absent. `Kind.Given` is what a writer hands over: timestamps of any clock, and
doubles that need not be numbers. Handing over nothing is always possible; `Kind.toValue` says
what is kept, and where something is needed and nothing is left, there is no value.

A double that is no number counts as nothing, and a zero loses its sign. Lists are kept as they
are. Lists of texts and of whole numbers are meant to hold such items, but are kept as records
whatever they hold; an absent one is the record without a value.
-/
import FarmLedger.Record.Loose
import FarmLedger.Time.Stored

namespace FarmLedger

open FarmLedger.Number FarmLedger.Record FarmLedger.Time

inductive Kind
  | text
  | real
  | whole
  | flag
  | bytes
  | moment
  | optionalMoment
  | texts
  | reals
  | wholes
  deriving DecidableEq, Repr

namespace Kind

/-- What a table keeps in a column. -/
@[reducible] def Value : Kind → Type
  | text => String
  | real => Float
  | whole => Int
  | flag => Bool
  | bytes => ByteArray
  | moment => Moment
  | optionalMoment => Option Moment
  | texts => Json
  | reals => Option (List Float)
  | wholes => Json

/-- What a writer hands over for a column, if anything. -/
@[reducible] def Given : Kind → Type
  | text => String
  | real => Float
  | whole => Int
  | flag => Bool
  | bytes => ByteArray
  | moment => Timestamp
  | optionalMoment => Timestamp
  | texts => Json
  | reals => List Float
  | wholes => Json

/-- Nothing may be kept in the column. -/
def isNullable : Kind → Bool
  | optionalMoment => true
  | _ => false

/-- What a new row gets for a column that nothing was handed over for: a flag is down. -/
def orDefault : (kind : Kind) → Option kind.Given → Option kind.Given
  | flag, given => some (given.getD false)
  | text, given => given
  | real, given => given
  | whole, given => given
  | bytes, given => given
  | moment, given => given
  | optionalMoment, given => given
  | texts, given => given
  | reals, given => given
  | wholes, given => given

/-- A timestamp that was handed over has to be storable. -/
def checkStamp : (kind : Kind) → Option kind.Given → Except TimestampFault Unit
  | moment, some stamp => stamp.toStored.map fun _ => ()
  | optionalMoment, some stamp => stamp.toStored.map fun _ => ()
  | _, _ => .ok ()

/-- A whole number has to fit in 64 bits with its sign. -/
def fitsWord (n : Int) : Bool :=
  -(Nat.pow 2 63 : Int) ≤ n && n < (Nat.pow 2 63 : Int)

/-- A whole number that was handed over has to fit. -/
def checkWidth : (kind : Kind) → Option kind.Given → Bool
  | whole, some (n : Int) => fitsWord n
  | _, _ => true

/-- What the table keeps of what was handed over; `none` if a value is needed. -/
def toValue : (kind : Kind) → Option kind.Given → Option kind.Value
  | text, given => given
  | real, given => given.bind fun (x : Float) => if x.isNaN then none else some (plainZero x)
  | whole, given => given
  | flag, given => given
  | bytes, given => given
  | moment, given => given.bind fun stamp => stamp.toStored.toOption
  | optionalMoment, given => some (given.bind fun stamp => stamp.toStored.toOption)
  | texts, (given : Option Json) => some (given.getD .null)
  | reals, given => some given
  | wholes, (given : Option Json) => some (given.getD .null)

/-- The kept value equals what was handed over: numbers by their value, timestamps as moments,
lists item by item. -/
def same : (kind : Kind) → kind.Value → Option kind.Given → Bool
  | text, value, given => some value == given
  | real, (value : Float), given => given.any (value == ·)
  | whole, value, given => some value == given
  | flag, value, given => some value == given
  | bytes, (value : ByteArray), given =>
    given.any fun (handed : ByteArray) => value.data == handed.data
  | moment, (value : Moment), given => given.any (isMoment value)
  | optionalMoment, none, given => given.isNone
  | optionalMoment, some value, given => given.any (isMoment value)
  | texts, (value : Json), (given : Option Json) => value.same (given.getD .null)
  | reals, none, given => given.isNone
  | reals, some value, given => given.any (sameReals value)
  | wholes, (value : Json), (given : Option Json) => value.same (given.getD .null)
where
  /-- The timestamp is a clock's reading at the moment. -/
  isMoment (value : Moment) (stamp : Timestamp) : Bool :=
    stamp.offset.isSome && stamp.instant == value.micros

def asText? : (kind : Kind) → kind.Value → Option String
  | text, value => some value
  | _, _ => none

end Kind

end FarmLedger
