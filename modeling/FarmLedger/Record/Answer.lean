/-
# FarmLedger.Record.Answer — rows and answers as records

A row is written as a record with its id and a member for each column: moments as text in UTC,
bytes as hexadecimal digits, lists as lists. What the ledger answers, the windows it keeps and the
verdicts of its guard are records too, with a duration by its days, seconds and microseconds. An
answer that says nothing is null.
-/
import FarmLedger.Ledger.Basic
import FarmLedger.Record.Json

namespace FarmLedger

open FarmLedger.Record FarmLedger.Text FarmLedger.Time

/-! ## Rows -/

/-- Bytes as hexadecimal digits, two for each. -/
def hexText (bytes : ByteArray) : String :=
  String.ofList (bytes.toList.flatMap fun byte => hexDigits 2 byte.toNat)

def Kind.toJson : (kind : Kind) → kind.Value → Json
  | text, value => .text value
  | real, value => .real value
  | whole, value => .whole value
  | flag, value => .flag value
  | bytes, value => .text (hexText value)
  | moment, value => .text (Time.Moment.iso value)
  | optionalMoment, value => .ofOption (fun moment => .text (Time.Moment.iso moment)) value
  | texts, value => value
  | reals, value => .ofOption (fun items : List Float => .list (items.map .real)) value
  | wholes, value => value

def Stored.toJson {e : Entity} (stored : Stored e) : Json :=
  .object (("id", .whole stored.id) :: e.schema.columns.map fun column =>
    (e.schema.name column, (e.kind column).toJson (stored.row column)))

def Page.toJson {e : Entity} (page : Page e) : Json :=
  .object [("rows", .list (page.rows.map Stored.toJson)), ("total", .whole page.total)]

def RatePair.toJson (pair : RatePair) : Json :=
  .object [("moving_average", pair.average.toJson), ("latest_rate", pair.latest.toJson)]

/-! ## Answers -/

def Time.Duration.toJson (duration : Duration) : Json :=
  .object [("days", .whole duration.days), ("seconds", .whole duration.seconds),
    ("microseconds", .whole duration.microseconds)]

def Window.toJson (w : Window) : Json :=
  .object [("period_start", .text w.start.iso), ("period_end", .text w.finish.iso),
    ("observed_values", .list (w.samples.map .real)), ("running_average", .real w.average),
    ("last_period_average", .real w.lastAverage)]

def Window.Update.toJson (update : Window.Update) : Json :=
  .object [("average", .real update.average), ("rolled_over", .flag update.rolledOver)]

/-- A verdict as a record: accepted or not, the deviation, the limit. -/
def Verdict.toJson (verdict : Verdict) : Json :=
  .list [.flag verdict.accepted, .real verdict.deviation, .real verdict.limit]

def Settings.toJson (settings : Settings) : Json :=
  .object [("oob_limit", .ofOption .real settings.limit),
    ("moving_average_window", settings.windowLength.toJson)]

def Upserted.toJson (upserted : Upserted) : Json :=
  .object [("id", .whole upserted.id), ("created", .flag upserted.created)]

def IngestReport.toJson (report : IngestReport) : Json :=
  .object [("attempted", .whole report.attempted), ("written", .whole report.written),
    ("failed", .list (report.failed.map .text)), ("ok", .flag report.isOk)]

def Answer.toJson : Answer → Json
  | .done => .null
  | .count n => .whole n
  | .rows _ found => .list (found.map Stored.toJson)
  | .page _ found => found.toJson
  | .pairs found => .list (found.map RatePair.toJson)
  | .upserted one => one.toJson
  | .upserts all => .list (all.map Upserted.toJson)
  | .report made => made.toJson
  | .time now => .text now.iso

/-- A line of the journal as a record: its level, its channel, its text. -/
def Line.toJson (line : Line) : Json :=
  .list [.text line.level.name, .text line.channel.name, .text line.text]

end FarmLedger
