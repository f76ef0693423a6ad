/-
# FarmLedger.Schema.Samples — tables that only grow

Each row is a sample taken at one time. Rows are added at the end and removed by deletes, and
never change in between.
-/
import FarmLedger.Schema.Basic
import FarmLedger.Text.Upper

namespace FarmLedger.Schema

open FarmLedger.Text

/-- The database knows upper case for the letters `a` to `z` only. -/
def upperCase (text : String) : Bool :=
  text == asciiUpper text

inductive HistoricTsharePriceColumn
  | farmName
  | price
  | totalSupply
  | holderCount
  | scrapedAt
  deriving DecidableEq, Repr

/-- Prices of vault shares over time. -/
abbrev historicTsharePrice : Schema where
  table := "historic_tshare_price"
  Column := HistoricTsharePriceColumn
  columns := [.farmName, .price, .totalSupply, .holderCount, .scrapedAt]
  complete := by rintro ⟨⟩ <;> simp
  name
    | .farmName => "farm_name"
    | .price => "price"
    | .totalSupply => "total_supply"
    | .holderCount => "holder_count"
    | .scrapedAt => "scraped_at"
  kind
    | .farmName => .text
    | .price | .totalSupply | .holderCount => .real
    | .scrapedAt => .moment
  matchable := [.farmName]
  indexes := [⟨"idx_historic_tshare_price_farm_scraped", [.farmName, .scrapedAt]⟩]
  appendOnly := true

inductive TokenBalanceColumn
  | tokenAccount
  | tokenMint
  | identifier
  | balance
  | scrapedAt
  deriving DecidableEq, Repr

/-- Balances of token accounts over time. -/
abbrev tokenBalance : Schema where
  table := "token_balance"
  Column := TokenBalanceColumn
  columns := [.tokenAccount, .tokenMint, .identifier, .balance, .scrapedAt]
  complete := by rintro ⟨⟩ <;> simp
  name
    | .tokenAccount => "token_account"
    | .tokenMint => "token_mint"
    | .identifier => "identifier"
    | .balance => "balance"
    | .scrapedAt => "scraped_at"
  kind
    | .tokenAccount | .tokenMint | .identifier => .text
    | .balance => .real
    | .scrapedAt => .moment
  matchable := [.tokenAccount, .identifier]
  indexes := [⟨"idx_token_balance_account", [.tokenAccount]⟩]
  appendOnly := true

inductive InterestRateColumn
  | platform
  | asset
  | lendingRate
  | borrowRate
  | utilizationRate
  | availableAmount
  | borrowedAmount
  | scrapedAt
  deriving DecidableEq, Repr

/-- Lending and borrow rates over time, by platform and asset. -/
abbrev interestRate : Schema where
  table := "interest_rate"
  Column := InterestRateColumn
  columns := [.platform, .asset, .lendingRate, .borrowRate, .utilizationRate, .availableAmount,
    .borrowedAmount, .scrapedAt]
  complete := by rintro ⟨⟩ <;> simp
  name
    | .platform => "platform"
    | .asset => "asset"
    | .lendingRate => "lending_rate"
    | .borrowRate => "borrow_rate"
    | .utilizationRate => "utilization_rate"
    | .availableAmount => "available_amount"
    | .borrowedAmount => "borrowed_amount"
    | .scrapedAt => "scraped_at"
  kind
    | .platform | .asset => .text
    | .lendingRate | .borrowRate | .utilizationRate | .availableAmount | .borrowedAmount => .real
    | .scrapedAt => .moment
  matchable := [.asset, .platform]
  folded := ["asset", "platform", "rate_name"]
  checks := [
    { name := "ck_interest_rate_platform_upper"
      condition := "platform = upper(platform)"
      holds := fun cells => upperCase (cells .platform) },
    { name := "ck_interest_rate_asset_upper"
      condition := "asset = upper(asset)"
      holds := fun cells => upperCase (cells .asset) }]
  indexes := [⟨"idx_interest_rate_platform_asset_scraped", [.platform, .asset, .scrapedAt]⟩]
  appendOnly := true

inductive InterestRateCurveColumn
  | platform
  | asset
  | rateName
  | minBorrowRate
  | maxBorrowRate
  | optimalBorrowRate
  | optimalUtilizationRate
  | degenBorrowRate
  | degenUtilizationRate
  deriving DecidableEq, Repr

/-- The parameters of interest rate curves. -/
abbrev interestRateCurve : Schema where
  table := "interest_rate_curve"
  Column := InterestRateCurveColumn
  columns := [.platform, .asset, .rateName, .minBorrowRate, .maxBorrowRate, .optimalBorrowRate,
    .optimalUtilizationRate, .degenBorrowRate, .degenUtilizationRate]
  complete := by rintro ⟨⟩ <;> simp
  name
    | .platform => "platform"
    | .asset => "asset"
    | .rateName => "rate_name"
    | .minBorrowRate => "min_borrow_rate"
    | .maxBorrowRate => "max_borrow_rate"
    | .optimalBorrowRate => "optimal_borrow_rate"
    | .optimalUtilizationRate => "optimal_utilization_rate"
    | .degenBorrowRate => "degen_borrow_rate"
    | .degenUtilizationRate => "degen_utilization_rate"
  kind
    | .platform | .asset | .rateName => .text
    | .minBorrowRate | .maxBorrowRate | .optimalBorrowRate | .optimalUtilizationRate
      | .degenBorrowRate | .degenUtilizationRate => .real
  matchable := [.asset, .platform, .rateName]
  folded := ["asset", "platform", "rate_name"]
  checks := [
    { name := "ck_interest_rate_curve_rate_name_upper"
      condition := "rate_name = upper(rate_name)"
      holds := fun cells => upperCase (cells .rateName) }]
  appendOnly := true

inductive VaultTvlColumn
  | farmName
  | totalShares
  | totalUnderlying
  | valueLocked
  | scrapedAt
  deriving DecidableEq, Repr

/-- The value locked in vaults over time. -/
abbrev vaultTvl : Schema where
  table := "vault_tvl"
  Column := VaultTvlColumn
  columns := [.farmName, .totalShares, .totalUnderlying, .valueLocked, .scrapedAt]
  complete := by rintro ⟨⟩ <;> simp
  name
    | .farmName => "farm_name"
    | .totalShares => "total_shares"
    | .totalUnderlying => "total_underlying"
    | .valueLocked => "value_locked"
    | .scrapedAt => "scraped_at"
  kind
    | .farmName => .text
    | .totalShares | .totalUnderlying | .valueLocked => .real
    | .scrapedAt => .moment
  matchable := [.farmName]
  indexes := [⟨"idx_vault_tvl_farm_scraped", [.farmName, .scrapedAt]⟩]
  appendOnly := true

inductive RealizeYieldColumn
  | vaultAddress
  | farmName
  | totalDepositedBalance
  | gainPerSecond
  | apr
  | scrapedAt
  deriving DecidableEq, Repr

/-- Realized yields of vaults over time. -/
abbrev realizeYield : Schema where
  table := "realize_yield"
  Column := RealizeYieldColumn
  columns := [.vaultAddress, .farmName, .totalDepositedBalance, .gainPerSecond, .apr, .scrapedAt]
  complete := by rintro ⟨⟩ <;> simp
  name
    | .vaultAddress => "vault_address"
    | .farmName => "farm_name"
    | .totalDepositedBalance => "total_deposited_balance"
    | .gainPerSecond => "gain_per_second"
    | .apr => "apr"
    | .scrapedAt => "scraped_at"
  kind
    | .vaultAddress | .farmName => .text
    | .totalDepositedBalance | .gainPerSecond | .apr => .real
    | .scrapedAt => .moment
  matchable := [.vaultAddress, .farmName]
  indexes := [⟨"idx_realize_yield_farm_scraped", [.farmName, .scrapedAt]⟩]
  appendOnly := true

inductive StakingAnalyticColumn
  | tokensStaked
  | tokensLocked
  | stulipTotalSupply
  | apy
  | priceFloat
  | priceUint
  | activeUnstakes
  | scrapedAt
  deriving DecidableEq, Repr

/-- Figures of the staking program over time. -/
abbrev stakingAnalytic : Schema where
  table := "staking_analytic"
  Column := StakingAnalyticColumn
  columns := [.tokensStaked, .tokensLocked, .stulipTotalSupply, .apy, .priceFloat, .priceUint,
    .activeUnstakes, .scrapedAt]
  complete := by rintro ⟨⟩ <;> simp
  name
    | .tokensStaked => "tokens_staked"
    | .tokensLocked => "tokens_locked"
    | .stulipTotalSupply => "stulip_total_supply"
    | .apy => "apy"
    | .priceFloat => "price_float"
    | .priceUint => "price_uint"
    | .activeUnstakes => "active_unstakes"
    | .scrapedAt => "scraped_at"
  kind
    | .tokensStaked | .tokensLocked | .stulipTotalSupply | .apy | .priceFloat => .real
    | .priceUint | .activeUnstakes => .whole
    | .scrapedAt => .moment
  matchable := []
  checks := [
    { name := "ck_staking_analytic_price_uint_nonneg"
      condition := "price_uint >= 0"
      holds := fun cells => 0 ≤ cells .priceUint }]
  appendOnly := true

end FarmLedger.Schema
