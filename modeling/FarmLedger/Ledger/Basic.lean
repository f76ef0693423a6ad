/-
# FarmLedger.Ledger.Basic — the ledger and its calls

A `Ledger` is the database with its settings and its clock. A `Call` is one request to it, and
`Call.perform` answers it: every call is one transaction. A `Step` is a call or something else that
happens to a ledger: samples are offered that need not be complete, time passes, tables are created
or dropped, a batch or an ingest runs.
-/
import FarmLedger.Ledger.Accounts
import FarmLedger.Ledger.Batch
import FarmLedger.Ledger.Ingest
import FarmLedger.Ledger.Liquidation
import FarmLedger.Ledger.Offers
import FarmLedger.Ledger.Reading
import FarmLedger.Ledger.Samples

namespace FarmLedger

open FarmLedger.Time

inductive Call
  | putTokenPrice (sample : PriceSample)
  | putInterestRate (sample : RateSample)
  | putInterestRateCurve (sample : CurveSample)
  | putStakingAnalytic (sample : StakingSample)
  | putSample (log : PlainLog) (draft : Draft log.entity)
  | putAccount (account : Account) (draft : Draft account.entity)
  | putVault (state : VaultState)
  | putSplit (split : DepositSplit)
  | putUserFarm (farm : UserFarm)
  | registerObligation (account authority : Option String)
  | putLiquidation (report : LiquidationReport)
  | delete (e : Entity) (criterion : Criterion)
  | read (e : Entity) (criterion : Criterion) (limit : Option Int)
  | readByLtv (criterion : Criterion)
  | readPage (e : Entity) (criterion : Criterion) (number size : Option Int)
  | readPricePage (criterion : Criterion) (start finish : Timestamp) (number size : Option Int)
      (byTime : Bool)
  | readPairs (criterion : Criterion)

inductive Answer
  | done
  | count (n : Nat)
  | rows (e : Entity) (rows : List (Stored e))
  | page (e : Entity) (page : Page e)
  | pairs (pairs : List RatePair)
  | upserted (upserted : Upserted)
  | upserts (upserts : List Upserted)
  | report (report : IngestReport)
  | time (now : Timestamp)

namespace Outcome

def map {α β : Type} (f : α → β) (outcome : Outcome α) : Outcome β :=
  ⟨outcome.result.map f, outcome.database, outcome.journal⟩

end Outcome

/-- Reads within a transaction of its own. -/
def ask {α : Type} (question : Database → Except Failure α) (database : Database) : Outcome α :=
  transact (Transaction.read question) database

def Call.perform (settings : Settings) (now : Timestamp) (call : Call) (database : Database) :
    Outcome Answer :=
  let done (outcome : Outcome Unit) : Outcome Answer := outcome.map fun _ => .done
  match call with
  | putTokenPrice sample => done (recordPrice settings now sample database)
  | putInterestRate sample => done (recordRate settings now sample database)
  | putInterestRateCurve sample => done (attempt (putCurve sample) database)
  | putStakingAnalytic sample => done (attempt (FarmLedger.putStakingAnalytic sample) database)
  | putSample log draft => done (transact (append log.entity draft) database)
  | putAccount account draft => done (transact (FarmLedger.putAccount account draft) database)
  | putVault state => done (attempt (putPrepared .vault state.draft) database)
  | putSplit split =>
    done (attempt (putPrepared .lendingOptimizerDistribution split.draft) database)
  | putUserFarm farm => done (attempt (putPrepared .v1UserFarm farm.draft) database)
  | registerObligation account authority =>
    done (transact (FarmLedger.registerObligation account authority) database)
  | putLiquidation report => done (transact (FarmLedger.putLiquidation report) database)
  | delete e criterion => (remove e criterion database).map .count
  | read e criterion limit => (ask (readRows e criterion limit) database).map (.rows e)
  | readByLtv criterion => (ask (FarmLedger.readByLtv criterion) database).map (.rows _)
  | readPage e criterion number size =>
    (ask (FarmLedger.readPage e criterion number size) database).map (.page e)
  | readPricePage criterion start finish number size byTime =>
    (ask (FarmLedger.readPricePage criterion start finish number size byTime) database).map
      (.page _)
  | readPairs criterion => (ask (latestPairs criterion) database).map .pairs

structure Ledger where
  settings : Settings
  /-- The usual number of workers that take samples. -/
  workers : Int
  clock : Timestamp
  database : Database

inductive Step
  | call (call : Call)
  | offerPrice (offer : PriceOffer)
  | offerRate (offer : RateOffer)
  | upsert (e : Entity) (criterion : Criterion) (create : Except Failure (Draft e))
      (revise : Row e → Revising e)
  | batch (actions : List Action)
  | ingestRates (workers : Option Int) (targets : List (Sampled (Timed RateSample)))
  | ingestPrices (workers : Option Int) (targets : List (Sampled (Timed PriceSample)))
  | advance (seconds : Float)
  | setClock (now : Timestamp)
  | createTables
  | dropTables
  | contents (e : Entity)

structure Reply where
  result : Except Failure Answer
  journal : Journal

def tablesLine : Line :=
  ⟨.info, .connection,
    "Analytics schema ensured (" ++ toString Entity.all.length ++ " tables)."⟩

/-- The moment that a clock shows after some seconds. -/
def advanceClock (clock : Timestamp) (seconds : Float) : Except Failure Timestamp := do
  let duration ← (Duration.ofSeconds seconds).mapError .duration
  (clock.add duration).mapError .timestamp

namespace Ledger

/-- The ledger after a transaction, and the reply. -/
def after (ledger : Ledger) (outcome : Outcome Answer) : Ledger × Reply :=
  ({ ledger with database := outcome.database }, ⟨outcome.result, outcome.journal⟩)

def step (ledger : Ledger) (step : Step) : Ledger × Reply :=
  match step with
  | .call call => ledger.after (call.perform ledger.settings ledger.clock ledger.database)
  | .offerPrice offer =>
    ledger.after
      ((recordPriceOffer ledger.settings ledger.clock offer ledger.database).map fun _ => .done)
  | .offerRate offer =>
    ledger.after
      ((recordRateOffer ledger.settings ledger.clock offer ledger.database).map fun _ => .done)
  | .upsert e criterion create revise =>
    ledger.after
      ((transact (flushAndUpsert [] e criterion create revise) ledger.database).map .upserted)
  | .batch actions => ledger.after ((transact (runActions [] actions) ledger.database).map .upserts)
  | .ingestRates workers targets =>
    ledger.after ((ingest Target.asRate
      (fun timed => recordRate ledger.settings timed.now timed.sample)
      (workersFor workers ledger.workers) targets ledger.database).map .report)
  | .ingestPrices workers targets =>
    ledger.after ((ingest Target.asPrice
      (fun timed => recordPrice ledger.settings timed.now timed.sample)
      (workersFor workers ledger.workers) targets ledger.database).map .report)
  | .advance seconds =>
    match advanceClock ledger.clock seconds with
    | .ok clock => ({ ledger with clock }, ⟨.ok (.time clock), []⟩)
    | .error failure => (ledger, ⟨.error failure, []⟩)
  | .setClock now => ({ ledger with clock := now }, ⟨.ok (.time now), []⟩)
  | .createTables =>
    ({ ledger with database := ledger.database.createTables }, ⟨.ok .done, [tablesLine]⟩)
  | .dropTables => ({ ledger with database := ledger.database.dropTables }, ⟨.ok .done, []⟩)
  | .contents e =>
    (ledger, ⟨(ledger.database.table e).map fun table => .rows e table.rows, []⟩)

def run : Ledger → List Step → Ledger × List Reply
  | ledger, [] => (ledger, [])
  | ledger, step :: steps =>
    let (next, reply) := ledger.step step
    let (final, replies) := run next steps
    (final, reply :: replies)

end Ledger

end FarmLedger
