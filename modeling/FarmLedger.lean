import FarmLedger.Main
import FarmLedger.Record.Answer
import FarmLedger.Record.Outline
import FarmLedger.Schema.Migration
import FarmLedger.Ledger.Offers
import FarmLedger.Proofs.Number.Mean
import FarmLedger.Proofs.Number.Quotient
import FarmLedger.Proofs.Number.Distance
import FarmLedger.Proofs.Text.Upper
import FarmLedger.Proofs.Time.Moment
import FarmLedger.Proofs.Storage.Values
import FarmLedger.Proofs.Storage.Transaction
import FarmLedger.Proofs.Storage.Upsert
import FarmLedger.Proofs.Storage.Shown
import FarmLedger.Proofs.Storage.Deed
import FarmLedger.Proofs.Storage.OneRow
import FarmLedger.Proofs.Reading.Rows
import FarmLedger.Proofs.Ledger.Frame
import FarmLedger.Proofs.Ledger.Offers
import FarmLedger.Proofs.Ledger.Requests
import FarmLedger.Proofs.Ledger.Undone
import FarmLedger.Proofs.Ledger.Stable
import FarmLedger.Proofs.Keys.Natural
import FarmLedger.Proofs.Keys.Sound
import FarmLedger.Proofs.Keys.Clash
import FarmLedger.Proofs.Keys.Puts
import FarmLedger.Proofs.Keys.Plan
import FarmLedger.Proofs.Keys.Unique
import FarmLedger.Proofs.Positions.Liquidation
import FarmLedger.Proofs.Positions.Lifecycle
import FarmLedger.Proofs.Window.History
import FarmLedger.Proofs.Window.Failure
import FarmLedger.Proofs.Window.Numbers
import FarmLedger.Proofs.Prices.Put
import FarmLedger.Proofs.Prices.History
import FarmLedger.Proofs.Prices.Outlier
import FarmLedger.Proofs.Rates.Put
import FarmLedger.Proofs.Rates.Drift
import FarmLedger.Proofs.Rates.Recorded
import FarmLedger.Proofs.Rates.Pair
import FarmLedger.Proofs.Rates.Spelling
import FarmLedger.Proofs.Rates.Order
import FarmLedger.Proofs.Config.Usable
import FarmLedger.Proofs.Prices.Identifier
import FarmLedger.Proofs.Prices.Recorded
import FarmLedger.Proofs.Prices.Venue
import FarmLedger.Proofs.Ingest.Sequence
import FarmLedger.Proofs.Ingest.Plans
import FarmLedger.Proofs.Ingest.Order
import FarmLedger.Proofs.Samples.Log
import FarmLedger.Proofs.Writers.Watch
import FarmLedger.Proofs.Writers.Accounts
import FarmLedger.Proofs.Writers.Prices
import FarmLedger.Proofs.Matching.Selection
import FarmLedger.Proofs.Prices.ReadBack
import FarmLedger.Proofs.Prices.Standing
import FarmLedger.Proofs.Reading.Pages
import FarmLedger.Proofs.Reading.Series
import FarmLedger.Proofs.Reading.Pairs
import FarmLedger.Proofs.Reading.Removal
import FarmLedger.Proofs.Time.Stored
import FarmLedger.Proofs.Reading.Instants
import FarmLedger.Proofs.Text.Quoted
import FarmLedger.Proofs.Matching.Described
import FarmLedger.Proofs.Number.Whole
import FarmLedger.Proofs.Writers.Compound
import FarmLedger.Proofs.Number.Digits
import FarmLedger.Proofs.Time.Calendar
import FarmLedger.Proofs.Time.IsoReader
import FarmLedger.Proofs.Command.Instant
