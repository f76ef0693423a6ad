/-
# FarmLedger.Proofs.Ledger.Undone — a step that fails leaves nothing behind

A step may fail before its transaction begins, after some of its rows are written, because what an
upsert was given to make or to revise a row fails, or because it is broken off. In no case is
anything left of it (`Ledger.step_undone`). All tables are written through transactions, and a
transaction that fails gives the database back (`Outcome.Undoes`); what is left to show is that no
step answers with a failure and keeps what its transaction did.

Such a step may as well not have been taken. `Ledger.succeeding` takes the failed steps out of a
run, and `failed_steps_leave_nothing` says that the others answer and write what they did before.
-/
import FarmLedger.Proofs.Ledger.Requests

namespace FarmLedger

open FarmLedger.Time

/-! ## Outcomes -/

section Outcomes

variable {α β : Type} {database : Database}

/-- A failure comes with the database from before. -/
def Outcome.Undoes (outcome : Outcome α) (before : Database) : Prop :=
  ∀ failure, outcome.result = .error failure → outcome.database = before

theorem Outcome.Undoes.map {outcome : Outcome α} (undoes : outcome.Undoes database) (f : α → β) :
    (outcome.map f).Undoes database := by
  intro failure failed
  obtain ⟨result, after, journal⟩ := outcome
  cases result with
  | error fault => exact undoes fault rfl
  | ok value => cases failed

theorem transact_undoes (work : Transaction α) (database : Database) :
    (transact work database).Undoes database :=
  fun _ => transact_error

theorem attempt_undoes (work : Except Failure (Transaction α)) (database : Database) :
    (attempt work database).Undoes database :=
  fun _ => attempt_error

theorem remove_undoes (e : Entity) (criterion : Criterion) (database : Database) :
    (remove e criterion database).Undoes database := by
  intro failure failed
  have undoes := transact_undoes (removeRows e criterion) database
  unfold remove at failed ⊢
  cases answered : (transact (removeRows e criterion) database).result with
  | ok count =>
    simp only [answered] at failed
    cases failed
  | error fault =>
    simp only [answered]
    exact undoes fault answered

/-- Only what is refused at the start makes an ingest fail. -/
theorem ingest_undoes (describe : Target → String) (put : α → Database → Outcome Unit)
    (workers : Int) (targets : List (Sampled α)) (database : Database) :
    (ingest describe put workers targets database).Undoes database := by
  intro failure failed
  unfold ingest at failed ⊢
  split at failed
  · cases failed
  · next nonempty =>
    split at failed
    · next none_ => rw [if_neg nonempty, if_pos none_]
    · cases failed

theorem recordPriceOffer_undoes (settings : Settings) (now : Timestamp) (offer : PriceOffer)
    (database : Database) : (recordPriceOffer settings now offer database).Undoes database := by
  unfold recordPriceOffer
  split
  · exact attempt_undoes _ _
  · exact attempt_undoes _ _

theorem recordRateOffer_undoes (settings : Settings) (now : Timestamp) (offer : RateOffer)
    (database : Database) : (recordRateOffer settings now offer database).Undoes database := by
  unfold recordRateOffer
  split
  · exact transact_undoes _ _
  · exact attempt_undoes _ _

theorem Call.perform_undoes (settings : Settings) (now : Timestamp) (call : Call)
    (database : Database) : (call.perform settings now database).Undoes database := by
  cases call with
  | putTokenPrice sample => exact (attempt_undoes _ _).map _
  | putInterestRate sample => exact (transact_undoes _ _).map _
  | putInterestRateCurve sample => exact (attempt_undoes _ _).map _
  | putStakingAnalytic sample => exact (attempt_undoes _ _).map _
  | putSample log draft => exact (transact_undoes _ _).map _
  | putAccount account draft => exact (transact_undoes _ _).map _
  | putVault state => exact (attempt_undoes _ _).map _
  | putSplit split => exact (attempt_undoes _ _).map _
  | putUserFarm farm => exact (attempt_undoes _ _).map _
  | registerObligation account authority => exact (transact_undoes _ _).map _
  | putLiquidation report => exact (transact_undoes _ _).map _
  | delete e criterion => exact (remove_undoes e criterion database).map _
  | read e criterion limit => exact (transact_undoes _ _).map _
  | readByLtv criterion => exact (transact_undoes _ _).map _
  | readPage e criterion number size => exact (transact_undoes _ _).map _
  | readPricePage criterion start finish number size byTime => exact (transact_undoes _ _).map _
  | readPairs criterion => exact (transact_undoes _ _).map _

end Outcomes

/-! ## Steps -/

namespace Ledger

variable {ledger : Ledger}

theorem after_undone {outcome : Outcome Answer} {failure : Failure}
    (undoes : outcome.Undoes ledger.database)
    (failed : (ledger.after outcome).2.result = .error failure) :
    (ledger.after outcome).1 = ledger := by
  have back : outcome.database = ledger.database := undoes failure failed
  unfold after
  rw [back]

/-- **A step that fails leaves the ledger as it was.** -/
theorem step_undone {step : Step} {failure : Failure}
    (failed : (ledger.step step).2.result = .error failure) : (ledger.step step).1 = ledger := by
  cases step with
  | call call => exact after_undone (call.perform_undoes _ _ _) failed
  | offerPrice offer => exact after_undone ((recordPriceOffer_undoes _ _ _ _).map _) failed
  | offerRate offer => exact after_undone ((recordRateOffer_undoes _ _ _ _).map _) failed
  | upsert e criterion create revise =>
    exact after_undone ((transact_undoes _ _).map _) failed
  | batch actions => exact after_undone ((transact_undoes _ _).map _) failed
  | ingestRates workers targets => exact after_undone ((ingest_undoes _ _ _ _ _).map _) failed
  | ingestPrices workers targets => exact after_undone ((ingest_undoes _ _ _ _ _).map _) failed
  | advance seconds =>
    cases moved : advanceClock ledger.clock seconds with
    | ok clock =>
      simp only [Ledger.step, moved] at failed
      cases failed
    | error fault => simp only [Ledger.step, moved]
  | setClock now => cases failed
  | createTables => cases failed
  | dropTables => cases failed
  | contents e => rfl

end Ledger

/-! ## Runs -/

def Reply.isDone (reply : Reply) : Bool :=
  reply.result.isOk

/-- The steps of a run that do not fail in it. -/
def Ledger.succeeding (ledger : Ledger) (steps : List Step) : List Step :=
  ((steps.zip (ledger.run steps).2).filter fun taken => taken.2.isDone).map Prod.fst

namespace Ledger

variable {ledger : Ledger}

theorem run_cons (step : Step) (steps : List Step) :
    ledger.run (step :: steps) =
      (((ledger.step step).1.run steps).1,
        (ledger.step step).2 :: ((ledger.step step).1.run steps).2) :=
  rfl

theorem succeeding_cons_done {step : Step} (steps : List Step)
    (done : (ledger.step step).2.isDone = true) :
    ledger.succeeding (step :: steps) = step :: (ledger.step step).1.succeeding steps := by
  unfold succeeding
  simp only [run_cons, List.zip_cons_cons, List.filter_cons, done, if_true, List.map_cons]

theorem succeeding_cons_failed {step : Step} (steps : List Step)
    (failed : (ledger.step step).2.isDone = false) :
    ledger.succeeding (step :: steps) = (ledger.step step).1.succeeding steps := by
  unfold succeeding
  simp only [run_cons, List.zip_cons_cons, List.filter_cons, failed, Bool.false_eq_true, if_false]

theorem step_of_not_done {step : Step} (failed : (ledger.step step).2.isDone = false) :
    (ledger.step step).1 = ledger := by
  cases answered : (ledger.step step).2.result with
  | error failure => exact step_undone answered
  | ok answer =>
    rw [Reply.isDone, answered] at failed
    cases failed

/-- Without the steps that failed a run ends where it ended, with the replies of the others. -/
theorem run_succeeding (steps : List Step) :
    ledger.run (ledger.succeeding steps) =
      ((ledger.run steps).1, (ledger.run steps).2.filter Reply.isDone) := by
  induction steps generalizing ledger with
  | nil => rfl
  | cons step steps ih =>
    rw [run_cons step steps]
    cases done : (ledger.step step).2.isDone with
    | true =>
      rw [succeeding_cons_done steps done, run_cons, ih, List.filter_cons_of_pos done]
    | false =>
      rw [succeeding_cons_failed steps done, List.filter_cons_of_neg (by simp [done]), ← ih,
        step_of_not_done done]

end Ledger

/-- **Failed steps leave nothing behind.** Whatever the ledger is, a step that fails leaves it as it
was, and a run without its failed steps comes to the same tables by the same replies. -/
theorem failed_steps_leave_nothing (ledger : Ledger) :
    (∀ step failure, (ledger.step step).2.result = .error failure →
        (ledger.step step).1 = ledger) ∧
      ∀ steps, ledger.run (ledger.succeeding steps) =
        ((ledger.run steps).1, (ledger.run steps).2.filter Reply.isDone) :=
  ⟨fun _ _ failed => Ledger.step_undone failed, Ledger.run_succeeding⟩

def waitingAccount (account : String) : Waiting :=
  ⟨.v1ObligationAccount, fun
    | .account => some account
    | .authority => some "owner"⟩

/-- A batch that is broken off when one row is written and another one waits. -/
def brokenBatch : Step :=
  .batch [.add (waitingAccount "first"), .flush, .add (waitingAccount "second"),
    .interrupt "stop"]

/-- A batch that upserts a row which it has written itself. What is to revise the row looks at it
and refuses. -/
def refusingBatch : Step :=
  .batch [.add (waitingAccount "first"), .flush, .add (waitingAccount "second"),
    .upsert .v1ObligationAccount (.matcher (.byField "account" [some "second"]))
      (.error (.raised "no such account"))
      fun row => ⟨[], .error (.raised ("held by " ++ (row .authority : String)))⟩]

theorem brokenBatch_leaves_nothing :
    ((emptyLedger.step brokenBatch).2.result = .error (.interrupted "stop") ∧
        (emptyLedger.step brokenBatch).1 = emptyLedger) ∧
      (emptyLedger.step refusingBatch).2.result = .error (.raised "held by owner") ∧
        (emptyLedger.step refusingBatch).1 = emptyLedger :=
  have broken : (emptyLedger.step brokenBatch).2.result = .error (.interrupted "stop") := by
    rfl
  have refused : (emptyLedger.step refusingBatch).2.result =
      .error (.raised "held by owner") := by
    rfl
  have undone := (failed_steps_leave_nothing emptyLedger).1
  ⟨⟨broken, undone brokenBatch _ broken⟩, refused, undone refusingBatch _ refused⟩

end FarmLedger
