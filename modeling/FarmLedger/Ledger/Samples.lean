/-
# FarmLedger.Ledger.Samples — samples that are only added

Four logs take samples as they are. The pair of an interest rate curve is brought to upper case
first, and the figures of the staking program are refused if the exact price does not fit its
column; neither can be done if these values are left out.
-/
import FarmLedger.Ledger.Lending

namespace FarmLedger

open FarmLedger.Text FarmLedger.Time

/-- The logs that take samples as they are. -/
inductive PlainLog
  | historicTsharePrice
  | tokenBalance
  | vaultTvl
  | realizeYield
  deriving DecidableEq, Repr

@[reducible] def PlainLog.entity : PlainLog → Entity
  | historicTsharePrice => .historicTsharePrice
  | tokenBalance => .tokenBalance
  | vaultTvl => .vaultTvl
  | realizeYield => .realizeYield

def append (e : Entity) (draft : Draft e) : Transaction Unit := do
  let _ ← Transaction.insert e draft

/-- The parameters of the interest rate curve of a pair. -/
structure CurveSample where
  platform : Option String
  asset : Option String
  minBorrowRate : Option Float
  maxBorrowRate : Option Float
  optimalBorrowRate : Option Float
  optimalUtilizationRate : Option Float
  degenBorrowRate : Option Float
  degenUtilizationRate : Option Float

/-- A text in upper case. -/
def upperOf (text : Option String) : Except Failure String :=
  match text with
  | some text => .ok (upper text)
  | none => .error (.unfit missingKind (.lacks "upper"))

/-- The row of a curve, its pair in upper case. -/
def CurveSample.draft (sample : CurveSample) : Except Failure (Draft .interestRateCurve) := do
  let platform ← upperOf sample.platform
  let asset ← upperOf sample.asset
  pure fun
    | .platform => some platform
    | .asset => some asset
    | .rateName => some (platform ++ "-" ++ asset)
    | .minBorrowRate => sample.minBorrowRate
    | .maxBorrowRate => sample.maxBorrowRate
    | .optimalBorrowRate => sample.optimalBorrowRate
    | .optimalUtilizationRate => sample.optimalUtilizationRate
    | .degenBorrowRate => sample.degenBorrowRate
    | .degenUtilizationRate => sample.degenUtilizationRate

def putCurve (sample : CurveSample) : Except Failure (Transaction Unit) :=
  sample.draft.map (append .interestRateCurve)

structure StakingSample where
  tokensStaked : Option Float
  tokensLocked : Option Float
  stulipTotalSupply : Option Float
  apy : Option Float
  priceFloat : Option Float
  priceUint : Option Int
  activeUnstakes : Option Int
  scrapedAt : Option Timestamp

namespace StakingSample

def draft (sample : StakingSample) : Draft .stakingAnalytic
  | .tokensStaked => sample.tokensStaked
  | .tokensLocked => sample.tokensLocked
  | .stulipTotalSupply => sample.stulipTotalSupply
  | .apy => sample.apy
  | .priceFloat => sample.priceFloat
  | .priceUint => sample.priceUint
  | .activeUnstakes => sample.activeUnstakes
  | .scrapedAt => sample.scrapedAt

end StakingSample

def maxExactPrice : Int := (Nat.pow 2 63 : Int) - 1

def putStakingAnalytic (sample : StakingSample) : Except Failure (Transaction Unit) := do
  match sample.priceUint with
  | none => throw (.unfit missingKind .unordered)
  | some price =>
    if price < 0 ∨ maxExactPrice < price then
      throw (.refused ⟨.precisionLoss, Entity.table .stakingAnalytic,
        "price_uint " ++ toString price ++ " does not fit a signed 64-bit column", none⟩)
    pure (append .stakingAnalytic sample.draft)

end FarmLedger
