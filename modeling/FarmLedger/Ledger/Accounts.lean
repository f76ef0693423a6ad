/-
# FarmLedger.Ledger.Accounts — the latest state of accounts

Six entities hold one row for each value of their key. A put with a new key writes a row; a put
with a known one refreshes it, all but the key and the columns that only the first put decides
(`Account.isFixed`).

Vaults, user farms and splits of deposits are prepared first: the time of the last compounding is
stored once more as whole seconds since 1970, and rows of any kind are gone through item by item,
where balances and indexes become numbers.
-/
import FarmLedger.Storage.Upsert

namespace FarmLedger

open FarmLedger.Number FarmLedger.Record FarmLedger.Time

/-- The entities that hold one row for each key. -/
inductive Account
  | vault
  | depositTracking
  | advertisedYield
  | lendingOptimizerDistribution
  | v1ObligationLtv
  | v1UserFarm
  deriving DecidableEq, Repr

namespace Account

@[reducible] def entity : Account → Entity
  | vault => .vault
  | depositTracking => .depositTracking
  | advertisedYield => .advertisedYield
  | lendingOptimizerDistribution => .lendingOptimizerDistribution
  | v1ObligationLtv => .v1ObligationLtv
  | v1UserFarm => .v1UserFarm

def keyField : Account → String
  | vault | depositTracking | v1ObligationLtv | v1UserFarm => "account_address"
  | advertisedYield => "farm_name"
  | lendingOptimizerDistribution => "vault_name"

/-- The key that a draft hands over. -/
def key : (account : Account) → Draft account.entity → Option String
  | vault, draft => draft .accountAddress
  | depositTracking, draft => draft .accountAddress
  | advertisedYield, draft => draft .farmName
  | lendingOptimizerDistribution, draft => draft .vaultName
  | v1ObligationLtv, draft => draft .accountAddress
  | v1UserFarm, draft => draft .accountAddress

/-- The column keeps what the first put gave it. -/
def isFixed : (account : Account) → account.entity.Column → Bool
  | vault, .accountAddress => true
  | depositTracking, .ownerAddress => true
  | depositTracking, .accountAddress => true
  | depositTracking, .vaultAccountAddress => true
  | advertisedYield, .farmName => true
  | lendingOptimizerDistribution, .vaultName => true
  | v1ObligationLtv, .accountAddress => true
  | v1UserFarm, .accountAddress => true
  | v1UserFarm, .authority => true
  | _, _ => false

/-- A later put with the same key. -/
def refresh (account : Account) (draft : Draft account.entity) : Revision account.entity :=
  fun column => if account.isFixed column then .keep else .set (draft column)

end Account

def putAccount (account : Account) (draft : Draft account.entity) : Transaction Unit := do
  let _ ← upsert account.entity (.matcher (.byField account.keyField [account.key draft]))
    (.ok draft) fun _ => .quiet (account.refresh draft)

structure VaultState where
  farmName : Option String
  accountAddress : Option String
  accountData : Option ByteArray
  scrapedAt : Option Timestamp
  lastCompound : Option Timestamp

/-- Whole seconds since 1970: the seconds as a double, without their fraction. -/
def wholeSeconds (moment : Moment) : Int :=
  truncate (ofQuotient moment.sinceEpoch microsPerSecond)

namespace VaultState

/-- The time of the last compounding in whole seconds since 1970, or zero. -/
def lastCompoundSeconds (state : VaultState) : Except Failure Int :=
  match state.lastCompound with
  | none => .ok 0
  | some stamp => (stamp.toUtc.mapError .timestamp).map wholeSeconds

def draft (state : VaultState) : Except Failure (Draft .vault) := do
  let seconds ← state.lastCompoundSeconds
  pure fun
    | .accountAddress => state.accountAddress
    | .accountData => state.accountData
    | .farmName => state.farmName
    | .scrapedAt => state.scrapedAt
    | .lastCompoundTs => state.lastCompound
    | .lastCompoundTsUnix => some seconds

end VaultState

/-- The items of a row of any kind. -/
def itemsOf (row : Json) : Except Failure (List Json) :=
  match row.items? with
  | some items => .ok items
  | none => .error (.unfit row.kindName .noItems)

def lengthOf (row : Json) : Except Failure Nat :=
  match row.items? with
  | some items => .ok items.length
  | none => .error (.unfit row.kindName .noLength)

/-- How a lending optimizer vault splits its deposits: a row of platforms and a row of balances. -/
structure DepositSplit where
  vaultName : Option String
  platforms : Json
  balances : Json

namespace DepositSplit

/-- The row of a split; there is one balance for each platform. -/
def draft (split : DepositSplit) : Except Failure (Draft .lendingOptimizerDistribution) := do
  let platformCount ← lengthOf split.platforms
  let balanceCount ← lengthOf split.balances
  if platformCount ≠ balanceCount then throw (.unequalLengths platformCount balanceCount)
  let platforms ← itemsOf split.platforms
  let balances ← (← itemsOf split.balances).mapM fun balance => balance.toReal.mapError .scalar
  pure fun
    | .vaultName => split.vaultName
    | .standaloneVaultPlatforms => some (.list platforms)
    | .standaloneVaultDepositedBalances => some balances

end DepositSplit

/-- A user farm and the rows of obligations that it owns and of their indexes. -/
structure UserFarm where
  authority : Option String
  accountAddress : Option String
  leveragedFarm : Option String
  obligations : Json
  obligationIndexes : Json

namespace UserFarm

def draft (farm : UserFarm) : Except Failure (Draft .v1UserFarm) := do
  let obligations ← itemsOf farm.obligations
  let indexes ← (← itemsOf farm.obligationIndexes).mapM fun index =>
    index.toInteger.mapError .scalar
  pure fun
    | .accountAddress => farm.accountAddress
    | .authority => farm.authority
    | .obligations => some (.list obligations)
    | .obligationIndexes => some (.list (indexes.map .whole))
    | .leveragedFarm => farm.leveragedFarm

end UserFarm

/-- Records the state of an account once its row is prepared. -/
def putPrepared (account : Account) (draft : Except Failure (Draft account.entity)) :
    Except Failure (Transaction Unit) :=
  draft.map (putAccount account)

end FarmLedger
