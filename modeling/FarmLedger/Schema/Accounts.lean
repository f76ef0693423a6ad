/-
# FarmLedger.Schema.Accounts — tables with one row for each account

Each row holds the latest known state of an account, a farm or a vault, and is found by its one
natural key.
-/
import FarmLedger.Schema.Basic

namespace FarmLedger.Schema

inductive VaultColumn
  | accountAddress
  | accountData
  | farmName
  | scrapedAt
  | lastCompoundTs
  | lastCompoundTsUnix
  deriving DecidableEq, Repr

/-- Vault accounts by their address. -/
abbrev vault : Schema where
  table := "vault"
  Column := VaultColumn
  columns := [.accountAddress, .accountData, .farmName, .scrapedAt, .lastCompoundTs,
    .lastCompoundTsUnix]
  complete := by rintro ⟨⟩ <;> simp
  name
    | .accountAddress => "account_address"
    | .accountData => "account_data"
    | .farmName => "farm_name"
    | .scrapedAt => "scraped_at"
    | .lastCompoundTs => "last_compound_ts"
    | .lastCompoundTsUnix => "last_compound_ts_unix"
  kind
    | .accountAddress | .farmName => .text
    | .accountData => .bytes
    | .scrapedAt => .moment
    | .lastCompoundTs => .optionalMoment
    | .lastCompoundTsUnix => .whole
  matchable := [.farmName, .accountAddress]
  keys := [{ name := "uq_vault_account_address", columns := [.accountAddress] }]

inductive DepositTrackingColumn
  | ownerAddress
  | accountAddress
  | accountData
  | vaultAccountAddress
  | scrapedAt
  | currentBalance
  | currentShares
  | balanceUsdValue
  deriving DecidableEq, Repr

/-- Tracking accounts of depositors by their address. -/
abbrev depositTracking : Schema where
  table := "deposit_tracking"
  Column := DepositTrackingColumn
  columns := [.ownerAddress, .accountAddress, .accountData, .vaultAccountAddress, .scrapedAt,
    .currentBalance, .currentShares, .balanceUsdValue]
  complete := by rintro ⟨⟩ <;> simp
  name
    | .ownerAddress => "owner_address"
    | .accountAddress => "account_address"
    | .accountData => "account_data"
    | .vaultAccountAddress => "vault_account_address"
    | .scrapedAt => "scraped_at"
    | .currentBalance => "current_balance"
    | .currentShares => "current_shares"
    | .balanceUsdValue => "balance_usd_value"
  kind
    | .ownerAddress | .accountAddress | .vaultAccountAddress => .text
    | .accountData => .bytes
    | .scrapedAt => .moment
    | .currentBalance | .currentShares | .balanceUsdValue => .real
  matchable := [.ownerAddress, .accountAddress, .vaultAccountAddress]
  keys := [{ name := "uq_deposit_tracking_account_address", columns := [.accountAddress] }]
  indexes := [⟨"idx_deposit_tracking_owner", [.ownerAddress]⟩]

inductive AdvertisedYieldColumn
  | vaultAddress
  | farmName
  | apr
  | scrapedAt
  deriving DecidableEq, Repr

/-- The advertised yield of each farm. -/
abbrev advertisedYield : Schema where
  table := "advertised_yield"
  Column := AdvertisedYieldColumn
  columns := [.vaultAddress, .farmName, .apr, .scrapedAt]
  complete := by rintro ⟨⟩ <;> simp
  name
    | .vaultAddress => "vault_address"
    | .farmName => "farm_name"
    | .apr => "apr"
    | .scrapedAt => "scraped_at"
  kind
    | .vaultAddress | .farmName => .text
    | .apr => .real
    | .scrapedAt => .moment
  matchable := [.farmName]
  keys := [{ name := "uq_advertised_yield_farm_name", columns := [.farmName] }]

inductive LendingOptimizerDistributionColumn
  | vaultName
  | standaloneVaultPlatforms
  | standaloneVaultDepositedBalances
  deriving DecidableEq, Repr

/-- How a lending optimizer vault splits its deposits over platforms. -/
abbrev lendingOptimizerDistribution : Schema where
  table := "lending_optimizer_distribution"
  Column := LendingOptimizerDistributionColumn
  columns := [.vaultName, .standaloneVaultPlatforms, .standaloneVaultDepositedBalances]
  complete := by rintro ⟨⟩ <;> simp
  name
    | .vaultName => "vault_name"
    | .standaloneVaultPlatforms => "standalone_vault_platforms"
    | .standaloneVaultDepositedBalances => "standalone_vault_deposited_balances"
  kind
    | .vaultName => .text
    | .standaloneVaultPlatforms => .texts
    | .standaloneVaultDepositedBalances => .reals
  matchable := [.vaultName]
  keys := [{ name := "uq_lending_optimizer_distribution_vault_name", columns := [.vaultName] }]

end FarmLedger.Schema
