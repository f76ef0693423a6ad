/-
# FarmLedger.Schema.Entity — the tables of the ledger

The seventeen entities that the ledger keeps, each with its declaration. `Entity.all` lists them in
the order in which their tables are created.
-/
import FarmLedger.Schema.Accounts
import FarmLedger.Schema.Positions
import FarmLedger.Schema.Samples
import FarmLedger.Schema.Windows

namespace FarmLedger

/-- What the ledger keeps tables of. -/
inductive Entity
  | tokenPrice
  | historicTsharePrice
  | tokenBalance
  | interestRate
  | interestRateCurve
  | interestRateMovingAverage
  | vault
  | vaultTvl
  | depositTracking
  | realizeYield
  | advertisedYield
  | lendingOptimizerDistribution
  | stakingAnalytic
  | v1ObligationAccount
  | v1ObligationLtv
  | v1UserFarm
  | v1LiquidatedPosition
  deriving DecidableEq, Repr

namespace Entity

@[reducible] def schema : Entity → Schema
  | tokenPrice => Schema.tokenPrice
  | historicTsharePrice => Schema.historicTsharePrice
  | tokenBalance => Schema.tokenBalance
  | interestRate => Schema.interestRate
  | interestRateCurve => Schema.interestRateCurve
  | interestRateMovingAverage => Schema.interestRateMovingAverage
  | vault => Schema.vault
  | vaultTvl => Schema.vaultTvl
  | depositTracking => Schema.depositTracking
  | realizeYield => Schema.realizeYield
  | advertisedYield => Schema.advertisedYield
  | lendingOptimizerDistribution => Schema.lendingOptimizerDistribution
  | stakingAnalytic => Schema.stakingAnalytic
  | v1ObligationAccount => Schema.v1ObligationAccount
  | v1ObligationLtv => Schema.v1ObligationLtv
  | v1UserFarm => Schema.v1UserFarm
  | v1LiquidatedPosition => Schema.v1LiquidatedPosition

/-- All entities in the order in which their tables are created. -/
def all : List Entity := [
  tokenPrice, historicTsharePrice, tokenBalance, interestRate, interestRateCurve,
  interestRateMovingAverage, vault, vaultTvl, depositTracking, realizeYield, advertisedYield,
  lendingOptimizerDistribution, stakingAnalytic, v1ObligationAccount, v1ObligationLtv, v1UserFarm,
  v1LiquidatedPosition]

theorem mem_all (e : Entity) : e ∈ all := by cases e <;> decide

abbrev Column (e : Entity) : Type := e.schema.Column

instance (e : Entity) : DecidableEq e.Column := e.schema.decEq

abbrev kind (e : Entity) : e.Column → Kind := e.schema.kind

def table (e : Entity) : String := e.schema.table

end Entity

end FarmLedger
