/-
# FarmLedger.Ledger.Reading — what is read and taken out

Every entity is read by a criterion, by ascending id. Rates, locked values and realized yields are
series: they are read by ascending time, and with a limit the newest come first. Obligations may
also be read by ascending loan to value, and share prices within a span of time, both ends
included. In all these orders rows that tie are assumed to come by ascending id.

Taking rows out needs at least one that matches.
-/
import FarmLedger.Storage.Query

namespace FarmLedger

open FarmLedger.Time

def Entity.seriesTime? : (e : Entity) → Option (Row e → Moment)
  | .interestRate => some fun row => row .scrapedAt
  | .vaultTvl => some fun row => row .scrapedAt
  | .realizeYield => some fun row => row .scrapedAt
  | _ => none

def Entity.readOrder (e : Entity) (limited : Bool) : RowOrder e :=
  match e.seriesTime? with
  | none => .byId
  | some time =>
    if limited then .sorted fun a b => time b ≤ time a else .sorted fun a b => time a ≤ time b

def readRows (e : Entity) (criterion : Criterion) (limit : Option Int) (database : Database) :
    Except Failure (List (Stored e)) :=
  Query.rows { criterion, order := e.readOrder limit.isSome } limit database

/-- The obligations that match, the least leveraged first. -/
def readByLtv (criterion : Criterion) (database : Database) :
    Except Failure (List (Stored .v1ObligationLtv)) :=
  Query.rows
    { criterion, order := .sorted fun a b => (a .ltv : Float) ≤ b .ltv } none database

def readPage (e : Entity) (criterion : Criterion) (number size : Option Int)
    (database : Database) : Except Failure (Page e) :=
  Query.page { criterion } number size database

def withinSpan (start finish : Timestamp) :
    Except Failure (Row .historicTsharePrice → Bool) := do
  let start ← start.toStored.mapError .unstorable
  let finish ← finish.toStored.mapError .unstorable
  pure fun row => start ≤ row .scrapedAt && (row .scrapedAt : Moment) ≤ finish

/-- A page of the share prices that match and were taken within a span. -/
def readPricePage (criterion : Criterion) (start finish : Timestamp) (number size : Option Int)
    (byTime : Bool) (database : Database) : Except Failure (Page .historicTsharePrice) :=
  Query.page
    { criterion
      keeps := some (withinSpan start finish)
      order := if byTime then .sorted fun a b => (a .scrapedAt : Moment) ≤ b .scrapedAt else .byId }
    number size database

/-- Takes out the rows that match, and tells how many they were. -/
def removeRows (e : Entity) (criterion : Criterion) : Transaction Nat := do
  let rows ← Transaction.read (Query.rows ({ criterion } : Query e) none)
  if rows.isEmpty then
    throw (.refused ⟨.notFound, e.table, "no rows matched delete", some criterion.describe⟩)
  Transaction.delete e (rows.map Stored.id)
  pure rows.length

def removedLine (e : Entity) (count : Nat) (criterion : Criterion) : Line :=
  ⟨.info, .deletion,
    "Deleted " ++ toString count ++ " " ++ e.table ++ " row(s) for " ++ criterion.describe ++ "."⟩

/-- Takes out the rows that match; the journal hears of it when it is done. -/
def remove (e : Entity) (criterion : Criterion) (database : Database) : Outcome Nat :=
  let outcome := transact (removeRows e criterion) database
  match outcome.result with
  | .ok count => { outcome with journal := outcome.journal ++ [removedLine e count criterion] }
  | .error _ => outcome

end FarmLedger
