/-
# FarmLedger.Command.Invocation — the commands of the operator

The command line names a command and its options; before the command it may name the address of
the database. `Invocation.ofWords` reads it.
-/
import FarmLedger.Command.Options
import FarmLedger.Ledger.Offers

namespace FarmLedger.Command

open FarmLedger.Time

/-- What the operator asks for. -/
inductive Request
  | initSchema
  | putTokenPrice (offer : PriceOffer)
  | putInterestRate (offer : RateOffer)
  | tokenPrices (assets : List (Offer String)) (limit : Offer Int)
  | rateAverages (names : List (Offer String))
  | liquidations (authorities : List (Offer String)) (page perPage : Offer Int)

structure Invocation where
  address : Offer String
  request : Request

def Request.name : Request → String
  | initSchema => "init-schema"
  | putTokenPrice .. => "put-token-price"
  | putInterestRate .. => "put-interest-rate"
  | tokenPrices .. => "token-prices"
  | rateAverages .. => "rate-averages"
  | liquidations .. => "liquidations"

structure Form where
  name : String
  specs : List Spec
  /-- Reads the request once no needed option is missing. -/
  request : Found → Request

namespace Value

def asText : Value → Offer String
  | text value => .value value
  | blank => .blank
  | _ => .missing

def asReal : Value → Offer Float
  | real value => .value value
  | blank => .blank
  | _ => .missing

def asWhole : Value → Offer Int
  | whole value => .value value
  | blank => .blank
  | _ => .missing

def asInstant : Value → Offer Timestamp
  | instant value => .value (.ofUtc value)
  | blank => .blank
  | _ => .missing

end Value

namespace Found

def text (found : Found) (name : String) : Offer String :=
  (found.last? name).elim .missing Value.asText

/-- The real of an option, zero where it is not given. -/
def real (found : Found) (name : String) : Offer Float :=
  ((found.last? name).elim .missing Value.asReal).orElse 0.0

def whole (found : Found) (name : String) : Offer Int :=
  (found.last? name).elim .missing Value.asWhole

def instant (found : Found) (name : String) : Offer Timestamp :=
  (found.last? name).elim .missing Value.asInstant

def texts (found : Found) (name : String) : List (Offer String) :=
  (found.all name).map Value.asText

end Found

def forms : List Form := [
  { name := "init-schema", specs := [], request := fun _ => .initSchema },
  { name := "put-token-price"
    specs := [
      ⟨"--asset", .text, true⟩, ⟨"--platform", .text, true⟩, ⟨"--price", .real, true⟩,
      ⟨"--coin-in-lp", .real, false⟩, ⟨"--pc-in-lp", .real, false⟩,
      ⟨"--token-mint", .text, true⟩]
    request := fun found => .putTokenPrice {
      asset := found.text "--asset", platform := found.text "--platform"
      price := found.real "--price", coinInLp := found.real "--coin-in-lp"
      pcInLp := found.real "--pc-in-lp", tokenMint := found.text "--token-mint" } },
  { name := "put-interest-rate"
    specs := [
      ⟨"--platform", .text, true⟩, ⟨"--asset", .text, true⟩, ⟨"--lending-rate", .real, true⟩,
      ⟨"--borrow-rate", .real, false⟩, ⟨"--utilization-rate", .real, false⟩,
      ⟨"--available-amount", .real, false⟩, ⟨"--borrowed-amount", .real, false⟩,
      ⟨"--scraped-at", .instant, false⟩]
    request := fun found => .putInterestRate {
      platform := found.text "--platform", asset := found.text "--asset"
      lendingRate := found.real "--lending-rate", borrowRate := found.real "--borrow-rate"
      utilizationRate := found.real "--utilization-rate"
      availableAmount := found.real "--available-amount"
      borrowedAmount := found.real "--borrowed-amount"
      scrapedAt := found.instant "--scraped-at" } },
  { name := "token-prices"
    specs := [⟨"--asset", .text, false⟩, ⟨"--limit", .whole, false⟩]
    request := fun found => .tokenPrices (found.texts "--asset") (found.whole "--limit") },
  { name := "rate-averages"
    specs := [⟨"--rate-name", .text, false⟩]
    request := fun found => .rateAverages (found.texts "--rate-name") },
  { name := "liquidations"
    specs := [
      ⟨"--authority", .text, false⟩, ⟨"--page", .whole, false⟩, ⟨"--per-page", .whole, false⟩]
    request := fun found =>
      .liquidations (found.texts "--authority") (found.whole "--page")
        (found.whole "--per-page") }]

/-- The options before the command. -/
def outer : OptionSet := ⟨[⟨"--database-url", .text, false⟩]⟩

def formOf (name : String) : Except Stop Form :=
  match forms.find? (·.name == name) with
  | some form => .ok form
  | none =>
    .error (.usage ("argument command: invalid choice: " ++ Text.quote name ++ " (choose from "
      ++ ", ".intercalate (forms.map fun form => Text.quote form.name) ++ ")"))

/-- Reads a command and its options; the words that nothing asked for are left. -/
def readCommand (words : List String) : Except Stop (Request × List String) :=
  match words with
  | [] => .error (.usage "the following arguments are required: command")
  | name :: others => do
    let form ← formOf name
    let options : OptionSet := ⟨form.specs⟩
    let found ← options.read false others
    OptionSet.require (options.missing found)
    pure (form.request found, found.extras)

def Invocation.ofWords (words : List String) : Except Stop Invocation := do
  let found ← outer.read true words
  let (request, extras) ← readCommand found.command
  refuseExtras (found.extras ++ extras)
  pure ⟨found.text "--database-url", request⟩

end FarmLedger.Command
