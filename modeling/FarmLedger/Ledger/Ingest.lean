/-
# FarmLedger.Ledger.Ingest — many samples at once

Ingesting takes a sample of every target and writes each sample that there is in a transaction of
its own. A target whose sampling or writing fails is counted and named, and stops nobody else.
Samples are taken side by side by a number of workers; without a worker nothing is taken, unless
there is nothing to take. They are written in the order in which they arrive, and while they arrive
time passes, so each comes with what the clock shows when it is written (`Timed`).
-/
import FarmLedger.Ledger.Lending
import FarmLedger.Ledger.Quote

namespace FarmLedger

open FarmLedger.Time

structure Target where
  platform : String
  asset : String
  deriving DecidableEq, Repr

/-- The target of a rate as messages show it. -/
def Target.asRate (target : Target) : String :=
  target.platform ++ "-" ++ target.asset

/-- The target of a price as messages show it. -/
def Target.asPrice (target : Target) : String :=
  target.platform ++ ":" ++ target.asset

structure IngestReport where
  attempted : Nat
  written : Nat
  failed : List String
  deriving DecidableEq, Repr

/-- No target failed. -/
def IngestReport.isOk (report : IngestReport) : Bool :=
  report.failed.isEmpty

/-- A target and what sampling it gave, if it gave anything. -/
structure Sampled (α : Type) where
  target : Target
  sample : Option α

/-- A sample and what the clock shows when it is written. -/
structure Timed (α : Type) where
  now : Timestamp
  sample : α

/-- Ingesting on its way. -/
structure IngestState where
  report : IngestReport
  database : Database
  journal : Journal

def targetFailedLine (name : String) : Line :=
  ⟨.error, .ingest, "Ingest failed for " ++ name ++ "."⟩

def ingestedLine (report : IngestReport) : Line :=
  ⟨.info, .ingest,
    "Ingest finished: " ++ toString report.written ++ "/" ++ toString report.attempted
      ++ " written, " ++ toString report.failed.length ++ " failed."⟩

namespace IngestState

def fail (state : IngestState) (name : String) : IngestState :=
  { state with
    report := { state.report with failed := state.report.failed ++ [name] }
    journal := state.journal ++ [targetFailedLine name] }

def write {α : Type} (describe : Target → String) (put : α → Database → Outcome Unit)
    (state : IngestState) (sampled : Sampled α) : IngestState :=
  match sampled.sample with
  | none => state.fail (describe sampled.target)
  | some sample =>
    let outcome := put sample state.database
    let after :=
      { state with database := outcome.database, journal := state.journal ++ outcome.journal }
    match outcome.result with
    | .ok _ => { after with report := { after.report with written := after.report.written + 1 } }
    | .error _ => after.fail (describe sampled.target)

end IngestState

/-- Writes the samples of all targets one after the other. -/
def ingest {α : Type} (describe : Target → String) (put : α → Database → Outcome Unit)
    (workers : Int) (targets : List (Sampled α)) (database : Database) : Outcome IngestReport :=
  let start : IngestState := ⟨⟨targets.length, 0, []⟩, database, []⟩
  if targets.isEmpty then ⟨.ok start.report, database, []⟩
  else if workers ≤ 0 then ⟨.error .noWorkers, database, []⟩
  else
    let state := targets.foldl (IngestState.write describe put) start
    ⟨.ok state.report, state.database, state.journal ++ [ingestedLine state.report]⟩

/-- The number of workers: the one asked for, unless it is missing or zero. -/
def workersFor (asked : Option Int) (usual : Int) : Int :=
  match asked with
  | none => usual
  | some count => if count = 0 then usual else count

end FarmLedger
