/-
# FarmLedger.Ledger.Offers — samples that need not be complete

A price or a rate may be offered with values left out or with empty rows in their place. A complete
offer is a sample and is recorded as one. Any other offer goes the same way as far as its values
reach: an asset is needed to find the row of a price, platform and asset are needed to average a
rate, and without a price only a standing price of zero can be compared with. What is not stored
need not be there: a known asset keeps its platform and its mint whatever is offered.

Reading by values that are offered fails where one of them is an empty row.
-/
import FarmLedger.Ledger.Lending
import FarmLedger.Ledger.Quote
import FarmLedger.Offer

namespace FarmLedger

open FarmLedger.Number FarmLedger.Text FarmLedger.Time

/-! ## Prices -/

def offeredIdentifier (platform asset : Offer String) : Except Failure String := do
  let asset ← asset.forOperation "split"
  pure (priceIdentifier (platform.shown id) asset)

def offeredMatcher (platform asset : Offer String) : Except Failure Matcher :=
  if platform = .value Schema.noVenue then
    .ok (.byFields ["asset", "platform"] [[asset.value?, some Schema.noVenue]])
  else (offeredIdentifier platform asset).map fun identifier =>
    .byField "asset_identifier" [some identifier]

structure PriceOffer where
  asset : Offer String
  platform : Offer String
  price : Offer Float
  coinInLp : Offer Float
  pcInLp : Offer Float
  tokenMint : Offer String

/-- The place of a column in the statement that writes a new row. -/
def Entity.placeOf (e : Entity) (column : e.Column) : Nat :=
  (e.schema.columns.takeWhile fun other => e.schema.name other != e.schema.name column).length + 1

namespace PriceOffer

/-- The sample, if the offer is complete. Only the mint may be left out. -/
def sample? (offer : PriceOffer) : Option PriceSample := do
  some ⟨← offer.asset.value?, ← offer.platform.value?, ← offer.price.value?,
    ← offer.coinInLp.value?, ← offer.pcInLp.value?, ← offer.tokenMint.optional?⟩

/-- The first row of an asset, with the window that the offer begins. -/
def draft (offer : PriceOffer) (asset : String) (window : Window) :
    Except Failure (Draft .tokenPrice) := do
  let price ← offer.price.forReal
  let coinInLp ← offer.coinInLp.forReal
  let pcInLp ← offer.pcInLp.forReal
  let platform ← offer.platform.forPlace (Entity.placeOf .tokenPrice .platform)
  let tokenMint ← offer.tokenMint.forPlace (Entity.placeOf .tokenPrice .tokenMint)
  pure fun
    | .asset => some asset
    | .price => price
    | .platform => platform
    | .coinInLp => coinInLp
    | .pcInLp => pcInLp
    | .assetIdentifier => some (priceIdentifier (offer.platform.shown id) asset)
    | .periodStart => some (.ofUtc window.start)
    | .periodEnd => some (.ofUtc window.finish)
    | .periodObservedPrices => some window.samples
    | .periodRunningAverage => some window.average
    | .lastPeriodAverage => some window.lastAverage
    | .feedStopped => some false
    | .tokenMint => tokenMint

/-- A revision with the figures that are offered. -/
def withFigures (offer : PriceOffer) (revision : Revision .tokenPrice) :
    Except Failure (Revision .tokenPrice) := do
  let price ← offer.price.forReal
  let coinInLp ← offer.coinInLp.forReal
  let pcInLp ← offer.pcInLp.forReal
  pure fun
    | .price => .set price
    | .coinInLp => .set coinInLp
    | .pcInLp => .set pcInLp
    | column => revision column

/-- How the row of an asset is to be revised where no price of a kind is offered. -/
def reviseUnpriced (offer : PriceOffer) (kind : String) (guard : Guard) (now : Timestamp)
    (length : Duration) (row : Row .tokenPrice) : Revising .tokenPrice :=
  let unchanged := offer.withFigures fun _ => .keep
  let identifier : String := row .assetIdentifier
  match priceWindow row with
  | .error failure => ⟨[], .error failure⟩
  | .ok window =>
    let verdict := guard.judge (some 0.0) 0.0
    if window.standing != 0.0 then ⟨[], .error (.unfit kind .noDifference)⟩
    else if !verdict.accepted then
      ⟨[outlierLine identifier (offer.price.shown showReal) window.standing verdict], unchanged⟩
    else
      match window.isExpired now with
      | .error failure => ⟨[], .error failure⟩
      | .ok false => ⟨[], .error (.unfit kind .noSummand)⟩
      | .ok true =>
        let step := window.rollOver now 0.0 length
        match step.result with
        | .error failure => ⟨window.expiryLines now, .error failure⟩
        | .ok _ =>
          ⟨window.expiryLines now ++ [priceRollOverLine identifier step.window.lastAverage],
            unchanged⟩

def revise (offer : PriceOffer) (asset : String) (guard : Guard) (now : Timestamp)
    (length : Duration) (row : Row .tokenPrice) : Revising .tokenPrice :=
  match offer.price with
  | .value price =>
    let sample : PriceSample := ⟨asset, offer.platform.shown id, price, 0.0, 0.0, none⟩
    let revising := sample.revise guard now length row
    ⟨revising.lines, revising.result.bind offer.withFigures⟩
  | .missing => offer.reviseUnpriced missingKind guard now length row
  | .blank => offer.reviseUnpriced blankKind guard now length row

def put (offer : PriceOffer) (settings : Settings) (now : Timestamp) :
    Except Failure (Transaction Unit) := do
  let asset ← offer.asset.forOperation "split"
  let matcher ← offeredMatcher offer.platform offer.asset
  let guard ← Guard.ofSetting settings.limit
  pure do
    let _ ← upsert .tokenPrice (.matcher matcher)
      ((Window.begin now settings.windowLength offer.price.value?).bind (offer.draft asset))
      (offer.revise asset guard now settings.windowLength)

end PriceOffer

/-- Records a price that is offered, in a transaction of its own. -/
def recordPriceOffer (settings : Settings) (now : Timestamp) (offer : PriceOffer)
    (database : Database) : Outcome Unit :=
  match offer.sample? with
  | some sample => recordPrice settings now sample database
  | none => attempt (offer.put settings now) database

/-! ## Rates -/

/-- Rates as they are offered. A moment that is an empty row counts as left out. -/
structure RateOffer where
  platform : Offer String
  asset : Offer String
  borrowRate : Offer Float
  utilizationRate : Offer Float
  lendingRate : Offer Float
  availableAmount : Offer Float
  borrowedAmount : Offer Float
  scrapedAt : Offer Timestamp

/-- The name under which the rates of an offered pair are averaged. -/
def offeredRateName (platform asset : Offer String) : Except Failure String := do
  let platform ← platform.forOperation "upper"
  let asset ← asset.forOperation "upper"
  pure (rateName platform asset)

namespace RateOffer

def ofSample (sample : RateSample) : RateOffer where
  platform := .value sample.platform
  asset := .value sample.asset
  borrowRate := .value sample.borrowRate
  utilizationRate := .value sample.utilizationRate
  lendingRate := .value sample.lendingRate
  availableAmount := .value sample.availableAmount
  borrowedAmount := .value sample.borrowedAmount
  scrapedAt := sample.scrapedAt.elim .missing .value

def sample? (offer : RateOffer) : Option RateSample := do
  some {
    platform := ← offer.platform.value?, asset := ← offer.asset.value?
    borrowRate := ← offer.borrowRate.value?, utilizationRate := ← offer.utilizationRate.value?
    lendingRate := ← offer.lendingRate.value?, availableAmount := ← offer.availableAmount.value?
    borrowedAmount := ← offer.borrowedAmount.value?, scrapedAt := offer.scrapedAt.value? }

theorem sample?_ofSample (sample : RateSample) : (ofSample sample).sample? = some sample := by
  obtain ⟨_, _, _, _, _, _, _, scrapedAt⟩ := sample
  cases scrapedAt <;> rfl

def draft (offer : RateOffer) (platform asset : String) :
    Except Failure (Draft .interestRate) := do
  let lendingRate ← offer.lendingRate.forReal
  let borrowRate ← offer.borrowRate.forReal
  let utilizationRate ← offer.utilizationRate.forReal
  let availableAmount ← offer.availableAmount.forReal
  let borrowedAmount ← offer.borrowedAmount.forReal
  pure fun
    | .platform => some platform
    | .asset => some asset
    | .lendingRate => lendingRate
    | .borrowRate => borrowRate
    | .utilizationRate => utilizationRate
    | .availableAmount => availableAmount
    | .borrowedAmount => borrowedAmount
    | .scrapedAt => offer.scrapedAt.value?

/-- Fails as the log of rates does where a figure is left out. -/
def put (offer : RateOffer) : Except Failure (Transaction Unit) := do
  let platform ← offer.platform.forOperation "upper"
  let asset ← offer.asset.forOperation "upper"
  pure do
    let draft ← Transaction.ofExcept (offer.draft (upper platform) (upper asset))
    let _ ← Transaction.insert .interestRate draft

end RateOffer

def recordRateOffer (settings : Settings) (now : Timestamp) (offer : RateOffer)
    (database : Database) : Outcome Unit :=
  match offer.sample? with
  | some sample => recordRate settings now sample database
  | none => attempt offer.put database

/-! ## Reading -/

/-- Matches a field by values, or everything if there are none. -/
def fieldCriterion (field : String) (values : List String) : Criterion :=
  .matcher (if values.isEmpty then .all else .byField field (values.map some))

/-- Reads by the values of a field that are offered. -/
def readOffered {α : Type} (e : Entity) (field : String) (values : List (Offer String))
    (read : Criterion → Database → Except Failure α) (database : Database) : Except Failure α :=
  let before := values.takeWhile (· != .blank)
  if before.length = values.length then
    read (fieldCriterion field (values.filterMap Offer.value?)) database
  else if e.schema.folds field then .error (.unfit blankKind (.lacks "upper"))
  else do
    let _ ← database.table e
    throw (.unbindable (before.length + 1) blankKind)

def offeredLimit (limit : Offer Int) : Except Failure (Option Int) :=
  match limit.optional? with
  | some limit => .ok limit
  | none => .error (.scalar (.notAnInteger blankKind))

/-- The number and the size of a page, if there are both. -/
def offeredPage (number size : Offer Int) : Except Failure (Option (Int × Int)) :=
  if number = .missing || size = .missing then .ok none
  else do
    let number ← number.require fun kind => .unfit kind .unordered
    if number < 1 then throw (.pageNumber number)
    let size ← size.require fun kind => .unfit kind .unordered
    if size < 1 then throw (.pageSize size)
    pure (some (number, size))

end FarmLedger
