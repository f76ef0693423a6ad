/-
# FarmLedger.Journal — what the ledger says about its work

Every part of the ledger writes lines to a journal under the name of its channel. The journal is
not part of the data: a line stays even if the work it speaks of is undone.
-/
namespace FarmLedger

/-- How much a line of the journal matters. -/
inductive Level
  | debug
  | info
  | warning
  | error
  deriving DecidableEq, Repr

def Level.name : Level → String
  | .debug => "DEBUG"
  | .info => "INFO"
  | .warning => "WARNING"
  | .error => "ERROR"

/-- The part of the ledger that a line comes from. -/
inductive Channel
  | connection
  | ledger
  | upsert
  | deletion
  | window
  | prices
  | rates
  | positions
  | ingest
  | command
  deriving DecidableEq, Repr

/-- The name under which a channel is listened to. -/
def Channel.name : Channel → String
  | .connection => "backend.db.session"
  | .ledger => "aggregation.store"
  | .upsert => "aggregation.upsert"
  | .deletion => "aggregation.repositories.base"
  | .window => "aggregation.moving_average"
  | .prices => "aggregation.repositories.prices"
  | .rates => "aggregation.repositories.rates"
  | .positions => "aggregation.repositories.positions"
  | .ingest => "aggregation.ingest"
  | .command => "analytics_cli"

structure Line where
  level : Level
  channel : Channel
  text : String
  deriving DecidableEq, Repr

abbrev Journal := List Line

end FarmLedger
