/-
# FarmLedger.Ledger.Batch — a transaction put together from actions

A batch adds rows, upserts, and may break off. Added rows wait and are written together: when the
batch asks for it, before an upsert looks for matches, and at the end. Waiting rows are written
entity by entity in a fixed order (`Entity.writeOrder`); within an entity they keep their order,
and rows that hand over the same flags are one write.
-/
import FarmLedger.Storage.Upsert

namespace FarmLedger

/-- The order in which waiting rows are written. -/
def Entity.writeOrder : List Entity := [
  .v1LiquidatedPosition, .v1ObligationAccount, .v1ObligationLtv, .v1UserFarm,
  .historicTsharePrice, .tokenBalance, .tokenPrice,
  .interestRate, .interestRateCurve, .interestRateMovingAverage,
  .advertisedYield, .depositTracking, .lendingOptimizerDistribution, .realizeYield,
  .stakingAnalytic, .vault, .vaultTvl]

structure Waiting where
  entity : Entity
  draft : Draft entity

def Waiting.draftOf? (e : Entity) (waiting : Waiting) : Option (Draft e) :=
  if h : waiting.entity = e then some (h ▸ waiting.draft) else none

def Draft.flags {e : Entity} (draft : Draft e) : List Bool :=
  e.schema.columns.map fun column => e.kind column = .flag && (draft column).isSome

def flush (waiting : List Waiting) : Transaction Unit :=
  Entity.writeOrder.forM fun e =>
    let drafts := waiting.filterMap (Waiting.draftOf? e)
    (drafts.splitBy fun a b => a.flags == b.flags).forM fun group => do
      let _ ← Transaction.insertAll e group

/-- A step of a batch. An upsert brings how a new row is made and how a row is revised, and either
may fail. -/
inductive Action
  | add (waiting : Waiting)
  | flush
  | upsert (e : Entity) (criterion : Criterion) (create : Except Failure (Draft e))
      (revise : Row e → Revising e)
  | raise (text : String)
  | interrupt (text : String)

/-- Writes what waits and upserts. A criterion that does not fit is refused before. -/
def flushAndUpsert (waiting : List Waiting) (e : Entity) (criterion : Criterion)
    (create : Except Failure (Draft e)) (revise : Row e → Revising e) : Transaction Upserted := do
  let _ ← Transaction.ofExcept (criterion.compile e)
  flush waiting
  upsert e criterion create revise

/-- Runs the actions in order, and tells what the upserts did. -/
def runActions : (waiting : List Waiting) → List Action → Transaction (List Upserted)
  | waiting, [] => do
    flush waiting
    pure []
  | waiting, .add row :: actions => runActions (waiting ++ [row]) actions
  | waiting, .flush :: actions => do
    flush waiting
    runActions [] actions
  | waiting, .upsert e criterion create revise :: actions => do
    let upserted ← flushAndUpsert waiting e criterion create revise
    let others ← runActions [] actions
    pure (upserted :: others)
  | _, .raise text :: _ => throw (.raised text)
  | _, .interrupt text :: _ => throw (.interrupted text)

end FarmLedger
