/-
# FarmLedger.Schema.Windows — tables of moving averages

Each row holds a window of samples and its mean: one row for a quoted price, one for the lending
rate of a pair. A window never ends before it starts.
-/
import FarmLedger.Schema.Basic

namespace FarmLedger.Schema

/-- The platform of prices that have no venue. -/
def noVenue : String := "NA"

inductive TokenPriceColumn
  | asset
  | price
  | platform
  | coinInLp
  | pcInLp
  | assetIdentifier
  | periodStart
  | periodEnd
  | periodObservedPrices
  | periodRunningAverage
  | lastPeriodAverage
  | feedStopped
  | tokenMint
  deriving DecidableEq, Repr

/-- The latest price of each quoted asset with its window. Prices without a venue stand under the
platform `NA`; they are told apart by asset and platform, all others by their identifier. -/
abbrev tokenPrice : Schema where
  table := "token_price"
  Column := TokenPriceColumn
  columns := [.asset, .price, .platform, .coinInLp, .pcInLp, .assetIdentifier, .periodStart,
    .periodEnd, .periodObservedPrices, .periodRunningAverage, .lastPeriodAverage, .feedStopped,
    .tokenMint]
  complete := by rintro ⟨⟩ <;> simp
  name
    | .asset => "asset"
    | .price => "price"
    | .platform => "platform"
    | .coinInLp => "coin_in_lp"
    | .pcInLp => "pc_in_lp"
    | .assetIdentifier => "asset_identifier"
    | .periodStart => "period_start"
    | .periodEnd => "period_end"
    | .periodObservedPrices => "period_observed_prices"
    | .periodRunningAverage => "period_running_average"
    | .lastPeriodAverage => "last_period_average"
    | .feedStopped => "feed_stopped"
    | .tokenMint => "token_mint"
  kind
    | .asset | .platform | .assetIdentifier | .tokenMint => .text
    | .price | .coinInLp | .pcInLp | .periodRunningAverage | .lastPeriodAverage => .real
    | .periodStart | .periodEnd => .moment
    | .periodObservedPrices => .reals
    | .feedStopped => .flag
  matchable := [.asset, .assetIdentifier, .platform]
  keys := [
    { name := "uq_token_price_asset_identifier", columns := [.assetIdentifier]
      condition := some "platform <> \x27NA\x27"
      covers := fun cells => cells .platform != noVenue },
    { name := "uq_token_price_na_asset_platform", columns := [.asset, .platform]
      condition := some "platform = \x27NA\x27"
      covers := fun cells => cells .platform == noVenue }]
  checks := [
    { name := "ck_token_price_period_order"
      condition := "period_end >= period_start"
      holds := fun cells => cells .periodStart ≤ cells .periodEnd }]
  indexes := [⟨"idx_token_price_asset_platform", [.asset, .platform]⟩]

inductive InterestRateMovingAverageColumn
  | platform
  | asset
  | rateName
  | periodStart
  | periodEnd
  | periodRunningAverage
  | periodObservedRates
  | lastPeriodRunningAverage
  deriving DecidableEq, Repr

/-- The moving average of the lending rate of each platform and asset. -/
abbrev interestRateMovingAverage : Schema where
  table := "interest_rate_moving_average"
  Column := InterestRateMovingAverageColumn
  columns := [.platform, .asset, .rateName, .periodStart, .periodEnd, .periodRunningAverage,
    .periodObservedRates, .lastPeriodRunningAverage]
  complete := by rintro ⟨⟩ <;> simp
  name
    | .platform => "platform"
    | .asset => "asset"
    | .rateName => "rate_name"
    | .periodStart => "period_start"
    | .periodEnd => "period_end"
    | .periodRunningAverage => "period_running_average"
    | .periodObservedRates => "period_observed_rates"
    | .lastPeriodRunningAverage => "last_period_running_average"
  kind
    | .platform | .asset | .rateName => .text
    | .periodStart | .periodEnd => .moment
    | .periodRunningAverage | .lastPeriodRunningAverage => .real
    | .periodObservedRates => .reals
  matchable := [.asset, .platform, .rateName]
  folded := ["asset", "platform", "rate_name"]
  keys := [{ name := "uq_interest_rate_moving_average_rate_name", columns := [.rateName] }]
  checks := [
    { name := "ck_interest_rate_moving_average_period_order"
      condition := "period_end >= period_start"
      holds := fun cells => cells .periodStart ≤ cells .periodEnd }]

end FarmLedger.Schema
