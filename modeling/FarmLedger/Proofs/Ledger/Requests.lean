/-
# FarmLedger.Proofs.Ledger.Requests — every run is a row of requests

A ledger is driven in several ways: calls, offers that need not be complete, ingests of many
samples, a clock that is set forth and back. As far as the database is concerned all of this is
one call after the other, each at some time: a `Request`. `Ledger.requests` lists the requests
that a run comes down to, and `Ledger.run_requests` says that they lead to the same database. It
leaves out the steps that write past the calls or change the schema (`Step.isRequest`).

A property that every call keeps, whenever it is made, is therefore kept by every run
(`Ledger.run_invariant`).
-/
import FarmLedger.Proofs.Ledger.Frame
import FarmLedger.Proofs.Ledger.Offers

namespace FarmLedger

open FarmLedger.Time

/-! ## Requests -/

/-- A call and what the clock shows when it is made. -/
structure Request where
  now : Timestamp
  call : Call

namespace Request

def apply (settings : Settings) (database : Database) (request : Request) : Database :=
  (request.call.perform settings request.now database).database

def applyAll (settings : Settings) (requests : List Request) (database : Database) : Database :=
  requests.foldl (apply settings) database

variable {settings : Settings} {database : Database}

theorem applyAll_append (first second : List Request) :
    applyAll settings (first ++ second) database =
      applyAll settings second (applyAll settings first database) :=
  List.foldl_append

theorem applyAll_invariant {P : Database → Prop} {requests : List Request}
    (start : P database)
    (step : ∀ request ∈ requests, ∀ database, P database → P (apply settings database request)) :
    P (applyAll settings requests database) := by
  induction requests generalizing database with
  | nil => exact start
  | cons request requests ih =>
    exact ih (step request List.mem_cons_self database start) fun other mem =>
      step other (List.mem_cons_of_mem _ mem)

end Request

def Database.fresh : Database := Database.empty.createTables

theorem Database.fresh_eq (e : Entity) : Database.fresh e = some Table.empty := by
  simp [Database.fresh, Database.createTables, Database.empty]

theorem Database.rows_fresh (e : Entity) : Database.fresh.rows e = [] :=
  Database.rows_of_table (Database.fresh_eq e)

/-! ## Steps -/

/-- The step only makes calls, or moves the clock: it neither writes past the calls nor changes the
schema. -/
def Step.isRequest : Step → Bool
  | .upsert _ _ _ _ | .batch _ | .createTables | .dropTables => false
  | _ => true

/-- The request that puts a rate when it arrives. -/
def Timed.putRate (timed : Timed RateSample) : Request :=
  ⟨timed.now, .putInterestRate timed.sample⟩

/-- The request that puts a price when it arrives. -/
def Timed.putPrice (timed : Timed PriceSample) : Request :=
  ⟨timed.now, .putTokenPrice timed.sample⟩

/-- The samples that an ingest writes. -/
def ingested {α : Type} (workers : Int) (targets : List (Sampled α)) : List α :=
  if workers ≤ 0 then [] else targets.filterMap Sampled.sample

theorem write_database {α : Type} (describe : Target → String)
    (put : α → Database → Outcome Unit) (targets : List (Sampled α)) (state : IngestState) :
    (targets.foldl (IngestState.write describe put) state).database =
      (targets.filterMap Sampled.sample).foldl
        (fun database sample => (put sample database).database) state.database := by
  induction targets generalizing state with
  | nil => rfl
  | cons target targets ih =>
    rw [List.foldl_cons, ih]
    cases sampled : target.sample with
    | none =>
      rw [List.filterMap_cons_none sampled]
      simp only [IngestState.write, sampled, IngestState.fail]
    | some sample =>
      rw [List.filterMap_cons_some sampled, List.foldl_cons]
      congr 1
      simp only [IngestState.write, sampled]
      split <;> rfl

theorem ingest_database {α : Type} (describe : Target → String)
    (put : α → Database → Outcome Unit) (workers : Int) (targets : List (Sampled α))
    (database : Database) :
    (ingest describe put workers targets database).database =
      (ingested workers targets).foldl (fun database sample => (put sample database).database)
        database := by
  unfold ingest ingested
  split
  · next empty =>
    rw [List.isEmpty_iff.1 empty]
    split <;> rfl
  · split
    · rfl
    · exact write_database describe put targets _

namespace Ledger

variable {ledger : Ledger}

/-- The requests that an offer of a price comes down to: none if nothing comes of it. -/
def offeredPrice (ledger : Ledger) (offer : PriceOffer) : List Request :=
  match offer.sample? with
  | some sample => [⟨ledger.clock, .putTokenPrice sample⟩]
  | none =>
    match (recordPriceOffer ledger.settings ledger.clock offer ledger.database).result with
    | .ok _ => [⟨ledger.clock, .putTokenPrice offer.standIn⟩]
    | .error _ => []

def offeredRate (ledger : Ledger) (offer : RateOffer) : List Request :=
  match offer.sample? with
  | some sample => [⟨ledger.clock, .putInterestRate sample⟩]
  | none => []

/-- The requests that a step comes down to. -/
def requestsOf (ledger : Ledger) : Step → List Request
  | .call call => [⟨ledger.clock, call⟩]
  | .offerPrice offer => ledger.offeredPrice offer
  | .offerRate offer => ledger.offeredRate offer
  | .ingestRates workers targets =>
    (ingested (workersFor workers ledger.workers) targets).map Timed.putRate
  | .ingestPrices workers targets =>
    (ingested (workersFor workers ledger.workers) targets).map Timed.putPrice
  | _ => []

/-- The requests that a run comes down to. -/
def requests : Ledger → List Step → List Request
  | _, [] => []
  | ledger, step :: steps => ledger.requestsOf step ++ (ledger.step step).1.requests steps

theorem step_settings (step : Step) : (ledger.step step).1.settings = ledger.settings := by
  cases step with
  | advance seconds =>
    simp only [Ledger.step]
    split <;> rfl
  | _ => rfl

theorem offeredPrice_database (offer : PriceOffer) :
    (recordPriceOffer ledger.settings ledger.clock offer ledger.database).database =
      Request.applyAll ledger.settings (ledger.offeredPrice offer) ledger.database := by
  unfold offeredPrice
  cases complete : offer.sample? with
  | some sample =>
    unfold recordPriceOffer
    rw [complete]
    rfl
  | none =>
    simp only
    cases answered :
        (recordPriceOffer ledger.settings ledger.clock offer ledger.database).result with
    | error failure =>
      simp only [recordPriceOffer, complete] at answered ⊢
      exact attempt_error answered
    | ok _ =>
      simp only [recordPriceOffer, complete] at answered ⊢
      rw [PriceOffer.put_standIn complete answered]
      rfl

theorem offeredRate_database (offer : RateOffer) :
    (recordRateOffer ledger.settings ledger.clock offer ledger.database).database =
      Request.applyAll ledger.settings (ledger.offeredRate offer) ledger.database := by
  unfold offeredRate
  cases complete : offer.sample? with
  | some sample =>
    unfold recordRateOffer
    rw [complete]
    rfl
  | none => exact recordRateOffer_kept complete

/-- A step leads to the same database as its requests. -/
theorem step_requests (step : Step) (request : step.isRequest = true) :
    (ledger.step step).1.database =
      Request.applyAll ledger.settings (ledger.requestsOf step) ledger.database := by
  cases step with
  | call call => rfl
  | offerPrice offer => exact offeredPrice_database offer
  | offerRate offer => exact offeredRate_database offer
  | ingestRates workers targets =>
    unfold requestsOf Request.applyAll
    rw [List.foldl_map]
    exact ingest_database _ _ _ targets ledger.database
  | ingestPrices workers targets =>
    unfold requestsOf Request.applyAll
    rw [List.foldl_map]
    exact ingest_database _ _ _ targets ledger.database
  | advance seconds =>
    simp only [Ledger.step]
    split <;> rfl
  | setClock now => rfl
  | contents e => rfl
  | upsert e criterion create revise => cases request
  | batch actions => cases request
  | createTables => cases request
  | dropTables => cases request

/-- **A run leads to the same database as its requests.** -/
theorem run_requests {steps : List Step} (allowed : ∀ step ∈ steps, step.isRequest = true) :
    (ledger.run steps).1.database =
      Request.applyAll ledger.settings (ledger.requests steps) ledger.database := by
  induction steps generalizing ledger with
  | nil => rfl
  | cons step steps ih =>
    have rest := @ih (ledger.step step).1 fun other mem =>
      allowed other (List.mem_cons_of_mem _ mem)
    rw [step_settings] at rest
    unfold requests
    rw [Request.applyAll_append, ← step_requests step (allowed step List.mem_cons_self), ← rest]
    rfl

/-- A request of a run is one of its calls, or a sample that was offered or ingested. -/
theorem mem_requests {steps : List Step} {request : Request}
    (mem : request ∈ ledger.requests steps) :
    .call request.call ∈ steps ∨ (∃ sample, request.call = .putTokenPrice sample) ∨
      ∃ sample, request.call = .putInterestRate sample := by
  induction steps generalizing ledger with
  | nil => cases mem
  | cons step steps ih =>
    rcases List.mem_append.1 mem with now | later
    · cases step with
      | call call =>
        rw [List.mem_singleton.1 now]
        exact .inl List.mem_cons_self
      | offerPrice offer =>
        simp only [requestsOf, offeredPrice] at now
        split at now
        · rw [List.mem_singleton.1 now]
          exact .inr (.inl ⟨_, rfl⟩)
        · split at now
          · rw [List.mem_singleton.1 now]
            exact .inr (.inl ⟨_, rfl⟩)
          · cases now
      | offerRate offer =>
        simp only [requestsOf, offeredRate] at now
        split at now
        · rw [List.mem_singleton.1 now]
          exact .inr (.inr ⟨_, rfl⟩)
        · cases now
      | ingestRates workers targets =>
        obtain ⟨timed, _, rfl⟩ := List.mem_map.1 now
        exact .inr (.inr ⟨timed.sample, rfl⟩)
      | ingestPrices workers targets =>
        obtain ⟨timed, _, rfl⟩ := List.mem_map.1 now
        exact .inr (.inl ⟨timed.sample, rfl⟩)
      | _ => cases now
    · rcases ih later with called | sampled
      · exact .inl (List.mem_cons_of_mem _ called)
      · exact .inr sampled

/-- **What every call keeps, every run keeps.** -/
theorem run_invariant {P : Database → Prop} {steps : List Step}
    (allowed : ∀ step ∈ steps, step.isRequest = true) (start : P ledger.database)
    (kept : ∀ request database, P database → P (Request.apply ledger.settings database request)) :
    P (ledger.run steps).1.database := by
  rw [run_requests allowed]
  exact Request.applyAll_invariant start fun request _ => kept request

end Ledger

/-- A question that has an answer is answered. -/
theorem ask_map {α β : Type} {question : Database → Except Failure α} {answer : α} (f : α → β)
    (answered : question database = .ok answer) :
    ((ask question database).map f).result = .ok (f answer) := by
  unfold Outcome.map ask
  rw [transact_read, answered]
  rfl

/-- Rows that are there to be read are the answer to reading them. -/
theorem step_read {e : Entity} {ledger : Ledger} {criterion : Criterion} {limit : Option Int}
    {found : List (Stored e)} (asked : readRows e criterion limit ledger.database = .ok found) :
    (ledger.step (.call (.read e criterion limit))).2.result = .ok (.rows e found) :=
  @ask_map _ _ _ (readRows e criterion limit) _ (Answer.rows e) asked

/-- A ledger with empty tables, windows of ten minutes and a clock in UTC. -/
def emptyLedger : Ledger where
  settings := {}
  workers := 4
  clock := .ofUtc ⟨microsPerDay, by decide⟩
  database := .fresh

/-- Windows begin at the clock of an empty ledger. -/
theorem begin_emptyLedger (price : Float) :
    ∃ window, Window.begin emptyLedger.clock emptyLedger.settings.windowLength (some price) =
      .ok window := by
  have ends : (Window.finishOf ⟨microsPerDay, by decide⟩
      emptyLedger.settings.windowLength).toOption.isSome = true := by
    decide +kernel
  have read : Window.utc emptyLedger.clock = .ok ⟨microsPerDay, by decide⟩ := by
    unfold Window.utc emptyLedger
    rw [Timestamp.toUtc_ofUtc]
    rfl
  cases finish : Window.finishOf ⟨microsPerDay, by decide⟩ emptyLedger.settings.windowLength with
  | error _ =>
    rw [finish] at ends
    cases ends
  | ok last => exact ⟨_, bind_ok read (bind_ok finish rfl)⟩

/-- What the clock of an empty ledger shows when a first window is over. -/
def afterWindow : Timestamp :=
  .ofUtc ⟨microsPerDay + 600 * microsPerSecond + 1, by decide⟩

end FarmLedger
