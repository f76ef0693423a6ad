/-
# FarmLedger.Ledger.Quote — prices of quoted assets

Every asset has one row with its latest price and the window of its moving average. A price from a
venue is found by an identifier made of the venue and the asset; names of liquidity pools carry the
venue once more, which is cut off, as is everything after the second asset. A price without a venue
is found by asset and platform as they are.

A price is judged by the last sample in the window, or by the mean if there is none. An accepted
price joins the window and opens the feed. An outlier is stored as the latest price and stops the
feed, and the window stays as it is.
-/
import FarmLedger.Guard
import FarmLedger.Number.Shortest
import FarmLedger.Storage.Upsert
import FarmLedger.Text.Parts

namespace FarmLedger

open FarmLedger.Number FarmLedger.Text FarmLedger.Time

/-- The identifier of an asset that is quoted on a platform. -/
def priceIdentifier (platform asset : String) : String :=
  match chunks '-' asset.toList with
  | _ :: first :: second :: _ =>
    platform ++ "-" ++ String.ofList first ++ "-" ++ String.ofList second
  | _ => platform ++ "-" ++ asset

def priceMatcher (platform asset : String) : Matcher :=
  if platform = Schema.noVenue then
    .byFields ["asset", "platform"] [[some asset, some platform]]
  else .byField "asset_identifier" [some (priceIdentifier platform asset)]

structure PriceSample where
  asset : String
  platform : String
  price : Float
  coinInLp : Float
  pcInLp : Float
  tokenMint : Option String

namespace PriceSample

/-- The first row of an asset, with the window that the sample begins. -/
def draft (sample : PriceSample) (window : Window) : Draft .tokenPrice
  | .asset => some sample.asset
  | .price => some sample.price
  | .platform => some sample.platform
  | .coinInLp => some sample.coinInLp
  | .pcInLp => some sample.pcInLp
  | .assetIdentifier => some (priceIdentifier sample.platform sample.asset)
  | .periodStart => some (.ofUtc window.start)
  | .periodEnd => some (.ofUtc window.finish)
  | .periodObservedPrices => some window.samples
  | .periodRunningAverage => some window.average
  | .lastPeriodAverage => some window.lastAverage
  | .feedStopped => some false
  | .tokenMint => sample.tokenMint

/-- The latest figures, and a window that goes with an open feed. -/
def accepted (sample : PriceSample) (window : Window) : Revision .tokenPrice
  | .price => .set (some sample.price)
  | .coinInLp => .set (some sample.coinInLp)
  | .pcInLp => .set (some sample.pcInLp)
  | .periodStart => .set (some (.ofUtc window.start))
  | .periodEnd => .set (some (.ofUtc window.finish))
  | .periodObservedPrices => .set (some window.samples)
  | .periodRunningAverage => .set (some window.average)
  | .lastPeriodAverage => .set (some window.lastAverage)
  | .feedStopped => .set (some false)
  | .asset | .platform | .assetIdentifier | .tokenMint => .keep

/-- The latest figures, and a feed that is stopped. -/
def rejected (sample : PriceSample) : Revision .tokenPrice
  | .price => .set (some sample.price)
  | .coinInLp => .set (some sample.coinInLp)
  | .pcInLp => .set (some sample.pcInLp)
  | .feedStopped => .set (some true)
  | .asset | .platform | .assetIdentifier | .periodStart | .periodEnd | .periodObservedPrices
    | .periodRunningAverage | .lastPeriodAverage | .tokenMint => .keep

end PriceSample

def priceWindow (row : Row .tokenPrice) : Except Failure Window :=
  match (row .periodObservedPrices : Option (List Float)) with
  | none => .error (.unfit missingKind .noItems)
  | some samples =>
    .ok ⟨row .periodStart, row .periodEnd, samples, row .periodRunningAverage,
      row .lastPeriodAverage⟩

/-- The price that the next one is judged by. -/
def Window.standing (window : Window) : Float :=
  window.lastSample.getD window.average

/-- The line about an outlier, whose price is given as it is shown. -/
def outlierLine (identifier price : String) (standing : Float) (verdict : Verdict) : Line :=
  ⟨.warning, .prices,
    "Rejected out-of-bounds price for " ++ identifier ++ ": " ++ price ++ " deviates "
      ++ showFixed 2 verdict.deviation ++ "% from " ++ showReal standing ++ " (limit "
      ++ showFixed 2 verdict.limit ++ "%)."⟩

def priceRollOverLine (identifier : String) (lastAverage : Float) : Line :=
  ⟨.info, .prices,
    "Price window rolled over for " ++ identifier ++ "; last period average "
      ++ showReal lastAverage ++ "."⟩

/-- Judges a sample by the row of its asset, and says how the row is to be revised. -/
def PriceSample.revise (sample : PriceSample) (guard : Guard) (now : Timestamp)
    (length : Duration) (row : Row .tokenPrice) : Revising .tokenPrice :=
  match priceWindow row with
  | .error failure => ⟨[], .error failure⟩
  | .ok window =>
    let verdict := guard.judge (some window.standing) sample.price
    let identifier : String := row .assetIdentifier
    if verdict.accepted then
      let step := window.observeOrRollOver now sample.price length
      match step.result with
      | .error failure => ⟨window.expiryLines now, .error failure⟩
      | .ok update =>
        let announced :=
          if update.rolledOver then [priceRollOverLine identifier step.window.lastAverage] else []
        ⟨window.expiryLines now ++ announced, .ok (sample.accepted step.window)⟩
    else
      ⟨[outlierLine identifier (showReal sample.price) window.standing verdict],
        .ok sample.rejected⟩

def putTokenPrice (settings : Settings) (now : Timestamp) (sample : PriceSample) :
    Except Failure (Transaction Unit) :=
  (Guard.ofSetting settings.limit).map fun guard => do
    let _ ← upsert .tokenPrice (.matcher (priceMatcher sample.platform sample.asset))
      ((Window.begin now settings.windowLength (some sample.price)).map sample.draft)
      (sample.revise guard now settings.windowLength)

/-- Records a price in a transaction of its own. -/
def recordPrice (settings : Settings) (now : Timestamp) (sample : PriceSample)
    (database : Database) : Outcome Unit :=
  attempt (putTokenPrice settings now sample) database

end FarmLedger
