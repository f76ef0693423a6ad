/-
# FarmLedger.Ledger.Lending — interest rates and their averages

Rates are kept by platform and asset, both in upper case. Each sample is added to the log of rates
and its lending rate joins the moving average of the pair, which is found by a name made of both.
The two writes are one transaction.

`latestPairs` puts beside each moving average the newest sample of the same platform and asset.
-/
import FarmLedger.Guard
import FarmLedger.Storage.Query
import FarmLedger.Storage.Upsert

namespace FarmLedger

open FarmLedger.Number FarmLedger.Text FarmLedger.Time

/-- The name under which the rates of a pair are averaged. -/
def rateName (platform asset : String) : String :=
  upper platform ++ "-" ++ upper asset

structure RateSample where
  platform : String
  asset : String
  borrowRate : Float
  utilizationRate : Float
  lendingRate : Float
  availableAmount : Float
  borrowedAmount : Float
  scrapedAt : Option Timestamp

namespace RateSample

/-- The sample with its pair in upper case. -/
def folded (sample : RateSample) : RateSample :=
  { sample with platform := upper sample.platform, asset := upper sample.asset }

/-- The row in the log of rates. -/
def draft (sample : RateSample) : Draft .interestRate
  | .platform => some sample.platform
  | .asset => some sample.asset
  | .lendingRate => some sample.lendingRate
  | .borrowRate => some sample.borrowRate
  | .utilizationRate => some sample.utilizationRate
  | .availableAmount => some sample.availableAmount
  | .borrowedAmount => some sample.borrowedAmount
  | .scrapedAt => sample.scrapedAt

def name (sample : RateSample) : String :=
  rateName sample.platform sample.asset

/-- The first row of the pair's moving average, with the window that the sample begins. -/
def averageDraft (sample : RateSample) (window : Window) : Draft .interestRateMovingAverage
  | .platform => some sample.platform
  | .asset => some sample.asset
  | .rateName => some sample.name
  | .periodStart => some (.ofUtc window.start)
  | .periodEnd => some (.ofUtc window.finish)
  | .periodRunningAverage => some window.average
  | .periodObservedRates => some window.samples
  | .lastPeriodRunningAverage => some window.lastAverage

end RateSample

/-- The columns of a moving average that hold its window. -/
def averageRevision (window : Window) : Revision .interestRateMovingAverage
  | .periodStart => .set (some (.ofUtc window.start))
  | .periodEnd => .set (some (.ofUtc window.finish))
  | .periodRunningAverage => .set (some window.average)
  | .periodObservedRates => .set (some window.samples)
  | .lastPeriodRunningAverage => .set (some window.lastAverage)
  | .platform | .asset | .rateName => .keep

def rateWindow (row : Row .interestRateMovingAverage) : Except Failure Window :=
  match (row .periodObservedRates : Option (List Float)) with
  | none => .error (.unfit missingKind .noItems)
  | some samples =>
    .ok ⟨row .periodStart, row .periodEnd, samples, row .periodRunningAverage,
      row .lastPeriodRunningAverage⟩

def rateRollOverLine (name : String) (lastAverage : Float) : Line :=
  ⟨.info, .rates,
    "Rate window rolled over for " ++ name ++ "; last period average "
      ++ showReal lastAverage ++ "."⟩

/-- Adds a sample to the moving average of its pair. -/
def RateSample.revise (sample : RateSample) (now : Timestamp) (length : Duration)
    (row : Row .interestRateMovingAverage) : Revising .interestRateMovingAverage :=
  match rateWindow row with
  | .error failure => ⟨[], .error failure⟩
  | .ok window =>
    let step := window.observeOrRollOver now sample.lendingRate length
    match step.result with
    | .error failure => ⟨window.expiryLines now, .error failure⟩
    | .ok update =>
      let announced :=
        if update.rolledOver then [rateRollOverLine sample.name step.window.lastAverage] else []
      ⟨window.expiryLines now ++ announced, .ok (averageRevision step.window)⟩

def rateMatcher (name : String) : Matcher :=
  .byField "rate_name" [some name]

def putInterestRate (settings : Settings) (now : Timestamp) (given : RateSample) :
    Transaction Unit := do
  let sample := given.folded
  let _ ← Transaction.insert .interestRate sample.draft
  let _ ← upsert .interestRateMovingAverage (.matcher (rateMatcher sample.name))
    ((Window.begin now settings.windowLength (some sample.lendingRate)).map sample.averageDraft)
    (sample.revise now settings.windowLength)

/-- Records rates in a transaction of their own. -/
def recordRate (settings : Settings) (now : Timestamp) (sample : RateSample)
    (database : Database) : Outcome Unit :=
  transact (putInterestRate settings now sample) database

/-- The newest sample of a platform and an asset; of two that are equally new the later one. -/
def latestRate (rates : List (Stored .interestRate)) (platform asset : String) :
    Option (Stored .interestRate) :=
  let ofPair := rates.filter fun rate => rate.row .platform == platform && rate.row .asset == asset
  ofPair.foldl (fun best rate =>
    match best with
    | none => some rate
    | some old => if (old.row .scrapedAt : Moment) ≤ rate.row .scrapedAt then some rate else best)
    none

structure RatePair where
  average : Stored .interestRateMovingAverage
  latest : Stored .interestRate

/-- Each moving average that matches, with the newest sample of its pair. -/
def latestPairs (criterion : Criterion) (database : Database) : Except Failure (List RatePair) := do
  let averages ← Query.rows { criterion } none database
  if averages.isEmpty then
    throw (.refused ⟨.notFound, Entity.table .interestRateMovingAverage,
      "no moving averages matched", some criterion.describe⟩)
  averages.mapM fun average => do
    let rates ← database.table .interestRate
    match latestRate rates.rows (average.row .platform) (average.row .asset) with
    | some latest => pure ⟨average, latest⟩
    | none =>
      let name : String := average.row .rateName
      throw (.refused ⟨.notFound, Entity.table .interestRate,
        "no interest rate sample for " ++ name, some criterion.describe⟩)

end FarmLedger
