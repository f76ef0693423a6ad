/-
# FarmLedger.Command.Run — carrying out a command

A command loads the configuration, opens the ledger at the address, asks it for what the operator
wants, and prints the answer as a record. What the ledger refuses is printed as a record too, and
the command ends with code 2; any other failure ends it without output.

A database that cannot be reached is noticed only when the first table of it is needed.
-/
import FarmLedger.Command.Disk
import FarmLedger.Command.Invocation
import FarmLedger.Config.Environment
import FarmLedger.Record.Answer

namespace FarmLedger.Command

open FarmLedger.Config FarmLedger.Number FarmLedger.Record FarmLedger.Time

/-- How a command ends. -/
inductive Finish
  /-- With a code and an output. -/
  | exit (code : Nat) (output : String)
  | stopped (stop : Stop)
  | failed (failure : Failure)

/-- What a command leaves behind. -/
structure Ran where
  finish : Finish
  disk : Disk
  journal : Journal

/-- Takes over the outcome of a transaction. -/
def carryOut {α : Type} (work : Database → Outcome α) : Transaction α := do
  let session ← get
  let outcome := work session.database
  set (⟨outcome.database, session.journal ++ outcome.journal⟩ : Session)
  Transaction.ofExcept outcome.result

/-- The first of the rows that were just written. -/
def firstRow {e : Entity} (rows : List (Stored e)) : Transaction Json :=
  match rows with
  | [] => throw .emptyAnswer
  | row :: _ => pure row.toJson

def Request.perform (settings : Settings) (clock : Timestamp) : Request → Transaction Json
  | .initSchema => do
    let session ← get
    set { session with database := session.database.createTables }
    Transaction.log [tablesLine]
    pure (.object [("status", .text "ok")])
  | .putTokenPrice offer => do
    carryOut (recordPriceOffer settings clock offer)
    let matcher ← Transaction.ofExcept (offeredMatcher offer.platform offer.asset)
    let rows ← carryOut (ask (readRows .tokenPrice (.matcher matcher) none))
    firstRow rows
  | .putInterestRate offer => do
    let scrapedAt := offer.scrapedAt.value?.getD clock
    carryOut (recordRateOffer settings clock { offer with scrapedAt := .value scrapedAt })
    let matcher := rateMatcher (offer.platform.shown id ++ "-" ++ offer.asset.shown id)
    let rows ← carryOut (ask (readRows .interestRateMovingAverage (.matcher matcher) none))
    firstRow rows
  | .tokenPrices assets limit => do
    let rows ← carryOut (ask fun database => do
      let limit ← offeredLimit limit
      readOffered .tokenPrice "asset" assets (readRows .tokenPrice · limit) database)
    pure (.list (rows.map Stored.toJson))
  | .rateAverages names => do
    let pairs ← carryOut
      (ask (readOffered .interestRateMovingAverage "rate_name" names latestPairs))
    pure (.list (pairs.map RatePair.toJson))
  | .liquidations authorities page perPage => do
    let page ← carryOut (ask fun database => do
      let asked ← offeredPage page perPage
      readOffered .v1LiquidatedPosition "authority" authorities
        (readPage .v1LiquidatedPosition · (asked.map (·.1)) (asked.map (·.2))) database)
    pure page.toJson

def readyLine (config : Config) : Line :=
  ⟨.info, .ledger,
    "Analytics store ready (oob_limit=" ++ showReal config.limit ++ ", window="
      ++ toString config.windowSeconds ++ "s)."⟩

def engineLine (engine : Engine) : Line :=
  ⟨.info, .connection, "Analytics engine created for dialect=" ++ engine.dialect.name⟩

def refusedLine (request : Request) (refusal : Refusal) : Line :=
  ⟨.error, .command, "Command " ++ request.name ++ " failed: " ++ refusal.message⟩

/-- What a failure comes to where the database cannot be reached. -/
def whereUnreached : Failure → Failure
  | .noSuchTable _ | .unstorableReal _ => .unreachable
  | failure => failure

/-- Asks a ledger whose database cannot be reached. -/
def Request.performUnreached (settings : Settings) (clock : Timestamp) :
    Request → Transaction Json
  | .initSchema => throw .unreachable
  | request => ExceptT.adapt whereUnreached (request.perform settings clock)

def openAndPerform (config : Config) (reached : Bool) (request : Request) (clock : Timestamp) :
    Transaction Json := do
  Transaction.log [readyLine config]
  let settings ← Transaction.ofExcept (config.settings.mapError .duration)
  if reached then request.perform settings clock else request.performUnreached settings clock

/-- Prints what a request came to. -/
def finishOf (request : Request) (result : Except Failure Json) : Finish × Journal :=
  match result with
  | .ok json => (.exit 0 (json.render ++ "\n"), [])
  | .error (.refused refusal) =>
    let json : Json :=
      .object [("error", .text refusal.message), ("entity", .text refusal.entity)]
    (.exit 2 (json.render ++ "\n"), [refusedLine request refusal])
  | .error failure => (.failed failure, [])

def execute (config : Config) (request : Request) (clock : Timestamp) (disk : Disk) : Ran :=
  match Engine.of config.poolSize config.address with
  | .error failure => ⟨.failed failure, disk, []⟩
  | .ok engine =>
    let place := placeOf engine.store
    let work := openAndPerform config (disk.reaches place) request clock
    let (result, session) :=
      (work.run.run ⟨disk.database place, [engineLine engine]⟩ : Except Failure Json × Session)
    let (finish, lines) := finishOf request result
    ⟨finish, disk.keep place session.database, session.journal ++ lines⟩

/-- Carries out a command line. -/
def run (environment : Environment) (clock : Timestamp) (disk : Disk) (words : List String) :
    Ran :=
  match Invocation.ofWords words with
  | .error (.failure failure) => ⟨.failed failure, disk, []⟩
  | .error stop => ⟨.stopped stop, disk, []⟩
  | .ok invocation =>
    match environment.load invocation.address.value? with
    | .error fault => ⟨.failed (.config fault), disk, []⟩
    | .ok config => execute config invocation.request clock disk

end FarmLedger.Command
