/-
# FarmLedger.Schema.Positions — tables of leveraged positions

Obligation accounts, their loan to value, the user farms that own them, and the records of
liquidations. A liquidation is open until it has an end, and never ends before it started.
-/
import FarmLedger.Schema.Basic

namespace FarmLedger.Schema

/-- There is no end yet, or it does not come before the start. -/
def notBefore (start : Time.Moment) (finish : Option Time.Moment) : Bool :=
  finish.all (start ≤ ·)

inductive V1ObligationAccountColumn
  | account
  | authority
  deriving DecidableEq, Repr

/-- The registry of obligation accounts. -/
abbrev v1ObligationAccount : Schema where
  table := "v1_obligation_account"
  Column := V1ObligationAccountColumn
  columns := [.account, .authority]
  complete := by rintro ⟨⟩ <;> simp
  name
    | .account => "account"
    | .authority => "authority"
  kind
    | .account | .authority => .text
  matchable := [.account, .authority]
  keys := [{ name := "uq_v1_obligation_account_account", columns := [.account] }]

inductive V1ObligationLtvColumn
  | authority
  | userFarm
  | accountAddress
  | ltv
  | scrapedAt
  | leveragedFarm
  deriving DecidableEq, Repr

/-- The latest loan to value of each obligation account. -/
abbrev v1ObligationLtv : Schema where
  table := "v1_obligation_ltv"
  Column := V1ObligationLtvColumn
  columns := [.authority, .userFarm, .accountAddress, .ltv, .scrapedAt, .leveragedFarm]
  complete := by rintro ⟨⟩ <;> simp
  name
    | .authority => "authority"
    | .userFarm => "user_farm"
    | .accountAddress => "account_address"
    | .ltv => "ltv"
    | .scrapedAt => "scraped_at"
    | .leveragedFarm => "leveraged_farm"
  kind
    | .authority | .userFarm | .accountAddress | .leveragedFarm => .text
    | .ltv => .real
    | .scrapedAt => .moment
  matchable := [.authority, .userFarm, .accountAddress]
  keys := [{ name := "uq_v1_obligation_ltv_account_address", columns := [.accountAddress] }]
  indexes := [⟨"idx_v1_obligation_ltv_ltv", [.ltv]⟩]

inductive V1UserFarmColumn
  | accountAddress
  | authority
  | obligations
  | obligationIndexes
  | leveragedFarm
  deriving DecidableEq, Repr

/-- User farms and the obligations that they own. -/
abbrev v1UserFarm : Schema where
  table := "v1_user_farm"
  Column := V1UserFarmColumn
  columns := [.accountAddress, .authority, .obligations, .obligationIndexes, .leveragedFarm]
  complete := by rintro ⟨⟩ <;> simp
  name
    | .accountAddress => "account_address"
    | .authority => "authority"
    | .obligations => "obligations"
    | .obligationIndexes => "obligation_indexes"
    | .leveragedFarm => "leveraged_farm"
  kind
    | .accountAddress | .authority | .leveragedFarm => .text
    | .obligations => .texts
    | .obligationIndexes => .wholes
  matchable := [.authority, .accountAddress]
  keys := [{ name := "uq_v1_user_farm_account_address", columns := [.accountAddress] }]
  indexes := [⟨"idx_v1_user_farm_authority", [.authority]⟩]

inductive V1LiquidatedPositionColumn
  | liquidationEventId
  | tempLiquidationAccount
  | authority
  | userFarm
  | obligation
  | startedAt
  | endedAt
  | leveragedFarm
  deriving DecidableEq, Repr

/-- The records of liquidations by their event. -/
abbrev v1LiquidatedPosition : Schema where
  table := "v1_liquidated_position"
  Column := V1LiquidatedPositionColumn
  columns := [.liquidationEventId, .tempLiquidationAccount, .authority, .userFarm, .obligation,
    .startedAt, .endedAt, .leveragedFarm]
  complete := by rintro ⟨⟩ <;> simp
  name
    | .liquidationEventId => "liquidation_event_id"
    | .tempLiquidationAccount => "temp_liquidation_account"
    | .authority => "authority"
    | .userFarm => "user_farm"
    | .obligation => "obligation"
    | .startedAt => "started_at"
    | .endedAt => "ended_at"
    | .leveragedFarm => "leveraged_farm"
  kind
    | .liquidationEventId | .tempLiquidationAccount | .authority | .userFarm | .obligation
      | .leveragedFarm => .text
    | .startedAt => .moment
    | .endedAt => .optionalMoment
  matchable := [.liquidationEventId, .tempLiquidationAccount, .authority, .userFarm, .obligation]
  keys := [
    { name := "uq_v1_liquidated_position_liquidation_event_id", columns := [.liquidationEventId] }]
  checks := [
    { name := "ck_v1_liquidated_position_ended_after_started"
      condition := "ended_at IS NULL OR ended_at >= started_at"
      holds := fun cells => notBefore (cells .startedAt) (cells .endedAt) }]

end FarmLedger.Schema
