/-
# FarmLedger.Config.Environment — the configuration

The configuration comes from named settings, each of them a text that may be missing, and is
checked when it is loaded: first the limit for outliers, then the level of the log, then the
address of the database and the counts. A count has to be positive.
-/
import FarmLedger.Guard
import FarmLedger.Text.Upper

namespace FarmLedger

open FarmLedger.Number FarmLedger.Text FarmLedger.Time

structure Config where
  address : String
  limit : Float
  windowSeconds : Int
  poolSize : Int
  ingestWorkers : Int
  logLevel : String

namespace Config

/-- Settings by name. -/
abbrev Environment : Type := List (String × String)

def knownLevels : List String :=
  ["CRITICAL", "ERROR", "WARNING", "INFO", "DEBUG"]

/-- The usual number of workers that take samples. -/
def defaultWorkers : Int := 8

namespace Environment

variable (environment : Environment)

/-- A setting that is needed, without the white space around it. -/
def required (setting : String) : Except ConfigFault String :=
  match environment.lookup setting with
  | none => .error (.missing setting)
  | some raw => if isBlankText raw then .error (.missing setting) else .ok (trim raw)

/-- A real, or the usual one if it is missing. -/
def real (setting : String) (usual : Float) : Except ConfigFault Float :=
  match environment.lookup setting with
  | none => .ok usual
  | some raw =>
    match readReal (trim raw) with
    | .ok value => .ok value
    | .error _ => .error (.notAReal setting raw)

/-- An integer, or the usual one if it is missing. -/
def integer (setting : String) (usual : Int) : Except ConfigFault Int :=
  match environment.lookup setting with
  | none => .ok usual
  | some raw =>
    match readInteger (trim raw) with
    | .ok value => .ok value
    | .error _ => .error (.notAnInteger setting raw)

/-- A positive integer, or the usual one if it is missing. -/
def positive (setting : String) (usual : Int) : Except ConfigFault Int := do
  let value ← environment.integer setting usual
  if value ≤ 0 then throw (.notPositive setting value)
  pure value

def limit : Except ConfigFault Float := do
  let raw ← environment.real "ANALYTICS_OOB_LIMIT" defaultLimit
  match resolveLimit (some raw) with
  | .ok limit => pure limit
  | .error _ => throw (.notAReal "ANALYTICS_OOB_LIMIT" (showReal raw))

def logLevel : Except ConfigFault String := do
  let name := upper (trim ((environment.lookup "LOG_LEVEL").getD "INFO"))
  if knownLevels.contains name then pure name else throw (.unknownLevel name)

/-- The address of the database: the one that is given, unless it is empty. -/
def address (given : Option String) : Except ConfigFault String :=
  match given with
  | some address => if address.isEmpty then environment.required "DATABASE_URL" else .ok address
  | none => environment.required "DATABASE_URL"

/-- Loads the configuration. An address that is given stands before the one of the settings. -/
def load (given : Option String) : Except ConfigFault Config := do
  let limit ← environment.limit
  let logLevel ← environment.logLevel
  let address ← environment.address given
  let windowSeconds ← environment.positive "MOVING_AVERAGE_WINDOW_SECONDS" 600
  let poolSize ← environment.positive "DB_POOL_SIZE" 5
  let ingestWorkers ← environment.positive "INGEST_MAX_WORKERS" defaultWorkers
  pure { address, limit, windowSeconds, poolSize, ingestWorkers, logLevel }

end Environment

def settings (config : Config) : Except DurationFault Settings :=
  (Duration.ofWholeSeconds config.windowSeconds).map fun windowLength =>
    { limit := some config.limit, windowLength }

end Config

end FarmLedger
