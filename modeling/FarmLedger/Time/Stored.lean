/-
# FarmLedger.Time.Stored — timestamps as the tables hold them

Tables hold moments in UTC. A timestamp of unknown distance from UTC is refused, since nobody
could say later which moment was meant. SQLite has no place for the distance, so there the moment
is stored without it and gets it back when it is read; PostgreSQL keeps it.
-/
import FarmLedger.Time.Timestamp

namespace FarmLedger.Time

inductive Dialect
  | sqlite
  | postgresql
  deriving DecidableEq, Repr

/-- The moment in UTC that a table holds for a timestamp. -/
def Timestamp.toStored (t : Timestamp) : Except TimestampFault Moment :=
  if t.offset.isNone then .error (.noOffset t) else t.toUtc

namespace Dialect

def name : Dialect → String
  | .sqlite => "sqlite"
  | .postgresql => "postgresql"

/-- The form in which a table holds a timestamp. -/
def store (dialect : Dialect) (t : Timestamp) : Except TimestampFault Timestamp :=
  t.toStored.map fun moment =>
    match dialect with
    | .sqlite => ⟨moment, none⟩
    | .postgresql => .ofUtc moment

/-- The timestamp that a table's form stands for, in UTC. -/
def load (_dialect : Dialect) (t : Timestamp) : Except TimestampFault Timestamp :=
  t.inUtc

end Dialect

end FarmLedger.Time
