/-
# FarmLedger.Ledger.Liquidation — obligation accounts and liquidations

An obligation account is registered once; whoever comes second is refused. A liquidation has a
record under the token of its event: the first put opens it, or writes it closed already, and a
later put has to bring an end, which closes it. Closing sets the end and the farm, and may be
repeated; a put without an end of a known event is refused.
-/
import FarmLedger.Storage.Upsert

namespace FarmLedger

open FarmLedger.Time

/-- A text in a message, or the word for a missing one. -/
def shown (text : Option String) : String :=
  text.getD "None"

def registerObligation (account authority : Option String) : Transaction Unit := do
  let matcher : Matcher := .byField "account" [account]
  let draft : Draft .v1ObligationAccount := fun
    | .account => account
    | .authority => authority
  let _ ← upsert .v1ObligationAccount (.matcher matcher) (.ok draft) fun row =>
    let owner : String := row .authority
    ⟨[], .error (.refused ⟨.duplicate, Entity.table .v1ObligationAccount,
      "obligation account already registered to " ++ owner, some matcher.describe⟩)⟩

structure LiquidationReport where
  tempLiquidationAccount : Option String
  authority : Option String
  userFarm : Option String
  liquidationEventId : Option String
  obligation : Option String
  leveragedFarm : Option String
  startedAt : Option Timestamp
  endedAt : Option Timestamp

namespace LiquidationReport

/-- The record of an event that is reported for the first time. -/
def draft (report : LiquidationReport) : Draft .v1LiquidatedPosition
  | .liquidationEventId => report.liquidationEventId
  | .tempLiquidationAccount => report.tempLiquidationAccount
  | .authority => report.authority
  | .userFarm => report.userFarm
  | .obligation => report.obligation
  | .startedAt => report.startedAt
  | .endedAt => report.endedAt
  | .leveragedFarm => report.leveragedFarm

def matcher (report : LiquidationReport) : Matcher :=
  .byField "liquidation_event_id" [report.liquidationEventId]

def closing (report : LiquidationReport) : Revision .v1LiquidatedPosition
  | .endedAt => .set report.endedAt
  | .leveragedFarm => .set report.leveragedFarm
  | .liquidationEventId | .tempLiquidationAccount | .authority | .userFarm | .obligation
    | .startedAt => .keep

/-- Closes the record of a known event. -/
def revise (report : LiquidationReport) : Revising .v1LiquidatedPosition :=
  match report.endedAt with
  | none =>
    ⟨[], .error (.refused ⟨.duplicateOpen, Entity.table .v1LiquidatedPosition,
      "liquidation already recorded for " ++ shown report.tempLiquidationAccount,
      some report.matcher.describe⟩)⟩
  | some finish =>
    ⟨[⟨.info, .positions,
      "Closed liquidation " ++ shown report.liquidationEventId ++ " at " ++ finish.iso ++ "."⟩],
      .ok report.closing⟩

end LiquidationReport

/-- Opens or closes the record of a liquidation. -/
def putLiquidation (report : LiquidationReport) : Transaction Unit := do
  let _ ← upsert .v1LiquidatedPosition (.matcher report.matcher) (.ok report.draft)
    fun _ => report.revise

end FarmLedger
