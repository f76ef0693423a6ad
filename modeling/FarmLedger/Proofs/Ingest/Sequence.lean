/-
# FarmLedger.Proofs.Ingest.Sequence — an ingest is its puts, one by one

Samples arrive in any order and at any time, some targets give none, and some samples cannot be
written. Whatever happens, an ingest leaves exactly what the calls leave that put the samples one
after the other, each when it arrives (`putsOf`); a call that fails counts for nothing, since
nothing is left of it. `write_run` shows this for every intermediate state, by induction on what
arrives. The calls have to set the clock to the times at which samples arrive. Apart from that an
ingest has no use for the clock of the ledger, and leaves it as it is.

The report is read off the replies to the same calls (`Ledger.callReplies`): `written` counts those
that are done, and `failed` names the targets that stay behind (`unwritten`), so the two make up all
targets.
-/
import FarmLedger.Proofs.Ledger.Undone

namespace FarmLedger

open FarmLedger.Number FarmLedger.Time

section Sequence

variable {α : Type} {describe : Target → String} {put : α → Request}

/-! ## The calls, and who stays behind -/

/-- The steps that make a request when its time has come. -/
def Request.steps (request : Request) : List Step :=
  [.setClock request.now, .call request.call]

/-- The steps that put the samples that there are, in the order in which they arrive. -/
def putsOf (put : α → Request) (arrived : List (Sampled α)) : List Step :=
  (arrived.filterMap Sampled.sample).flatMap fun sample => (put sample).steps

def Step.isCall : Step → Bool
  | .call _ => true
  | _ => false

/-- The replies that a run gives to its calls. -/
def Ledger.callReplies (ledger : Ledger) (steps : List Step) : List Reply :=
  ((steps.zip (ledger.run steps).2).filter fun taken => taken.1.isCall).map Prod.snd

/-- The targets that gave no sample, and those whose sample was not put, in the order in which they
arrive. The replies are those to the calls that put the samples. -/
def unwritten : List (Sampled α) → List Reply → List Target
  | [], _ => []
  | ⟨target, none⟩ :: arrived, replies => target :: unwritten arrived replies
  | ⟨target, some _⟩ :: arrived, [] => target :: unwritten arrived []
  | ⟨target, some _⟩ :: arrived, reply :: replies =>
    if reply.isDone then unwritten arrived replies else target :: unwritten arrived replies

theorem putsOf_none (target : Target) (arrived : List (Sampled α)) :
    putsOf put (⟨target, none⟩ :: arrived) = putsOf put arrived :=
  rfl

theorem putsOf_some (target : Target) (sample : α) (arrived : List (Sampled α)) :
    putsOf put (⟨target, some sample⟩ :: arrived) = (put sample).steps ++ putsOf put arrived :=
  rfl

namespace Ledger

/-- What is called when the clock shows something else. -/
def answer (ledger : Ledger) (request : Request) : Ledger × Reply :=
  { ledger with clock := request.now }.step (.call request.call)

theorem run_request (ledger : Ledger) (request : Request) (steps : List Step) :
    (ledger.run (request.steps ++ steps)).1 = ((ledger.answer request).1.run steps).1 :=
  rfl

theorem callReplies_request (ledger : Ledger) (request : Request) (steps : List Step) :
    ledger.callReplies (request.steps ++ steps) =
      (ledger.answer request).2 :: (ledger.answer request).1.callReplies steps :=
  rfl

theorem length_callReplies (ledger : Ledger) (arrived : List (Sampled α)) :
    (ledger.callReplies (putsOf put arrived)).length =
      (arrived.filterMap Sampled.sample).length := by
  unfold putsOf
  generalize arrived.filterMap Sampled.sample = samples
  induction samples generalizing ledger with
  | nil => rfl
  | cons sample samples ih =>
    rw [List.flatMap_cons, callReplies_request, List.length_cons, List.length_cons, ih]

end Ledger

/-- Every target is written or stays behind. -/
theorem length_unwritten (arrived : List (Sampled α)) (replies : List Reply)
    (answered : replies.length = (arrived.filterMap Sampled.sample).length) :
    replies.countP Reply.isDone + (unwritten arrived replies).length = arrived.length := by
  induction arrived generalizing replies with
  | nil =>
    rw [List.eq_nil_of_length_eq_zero answered]
    rfl
  | cons sampled arrived ih =>
    obtain ⟨target, _ | sample⟩ := sampled
    · have rest := ih replies answered
      rw [unwritten, List.length_cons, List.length_cons]
      omega
    · cases replies with
      | nil => cases answered
      | cons reply replies =>
        have rest := ih replies (Nat.succ.inj answered)
        unfold unwritten
        cases done : reply.isDone with
        | true =>
          rw [List.countP_cons_of_pos done, if_pos rfl, List.length_cons]
          omega
        | false =>
          rw [List.countP_cons_of_neg (by simp [done]), if_neg Bool.false_ne_true,
            List.length_cons, List.length_cons]
          omega

/-- No target stays behind exactly if all gave a sample and all samples are put. -/
theorem unwritten_eq_nil_iff (arrived : List (Sampled α)) (replies : List Reply)
    (answered : replies.length = (arrived.filterMap Sampled.sample).length) :
    unwritten arrived replies = [] ↔
      (∀ sampled ∈ arrived, sampled.sample.isSome = true) ∧
        ∀ reply ∈ replies, reply.isDone = true := by
  induction arrived generalizing replies with
  | nil =>
    rw [List.eq_nil_of_length_eq_zero answered]
    simp [unwritten]
  | cons sampled arrived ih =>
    obtain ⟨target, _ | sample⟩ := sampled
    · simp [unwritten]
    · cases replies with
      | nil => cases answered
      | cons reply replies =>
        have rest := ih replies (Nat.succ.inj answered)
        cases done : reply.isDone with
        | true => simp [unwritten, done, rest]
        | false => simp [unwritten, done]

/-! ## The run beside the ingest -/

variable {record : α → Database → Outcome Unit} {state : IngestState} {sample : α}

theorem IngestState.write_ok (target : Target)
    (done : (record sample state.database).result = .ok ()) :
    state.write describe record ⟨target, some sample⟩ =
      ⟨{ state.report with written := state.report.written + 1 },
        (record sample state.database).database,
        state.journal ++ (record sample state.database).journal⟩ := by
  simp only [IngestState.write, done]

theorem IngestState.write_error {failure : Failure} (target : Target)
    (failed : (record sample state.database).result = .error failure) :
    state.write describe record ⟨target, some sample⟩ =
      ⟨{ state.report with failed := state.report.failed ++ [describe target] },
        (record sample state.database).database,
        state.journal ++ (record sample state.database).journal
          ++ [targetFailedLine (describe target)]⟩ := by
  simp only [IngestState.write, failed, IngestState.fail]

variable (describe record)

/-- **Writing what arrives is putting it, one by one.** -/
theorem write_run {ledger : Ledger}
    (puts : ∀ sample database,
      (put sample).call.perform ledger.settings (put sample).now database =
        (record sample database).map fun _ => .done)
    (arrived : List (Sampled α)) (state : IngestState) :
    let final := arrived.foldl (IngestState.write describe record) state
    let before := { ledger with database := state.database }
    let replies := before.callReplies (putsOf put arrived)
    { (before.run (putsOf put arrived)).1 with clock := ledger.clock } =
        { ledger with database := final.database } ∧
      final.report.attempted = state.report.attempted ∧
      final.report.written = state.report.written + replies.countP Reply.isDone ∧
      final.report.failed = state.report.failed ++ (unwritten arrived replies).map describe := by
  induction arrived generalizing state ledger with
  | nil => exact ⟨rfl, rfl, rfl, (List.append_nil _).symm⟩
  | cons sampled arrived ih =>
    obtain ⟨target, _ | sample⟩ := sampled
    · -- without a sample nothing is called, and the target is named
      obtain ⟨tables, attempted, written, failed⟩ := ih puts (state.fail (describe target))
      refine ⟨tables, attempted, written, ?_⟩
      rw [List.foldl_cons, putsOf_none, unwritten, List.map_cons]
      exact failed.trans (List.append_assoc _ _ _)
    · have stepped : { ledger with database := state.database }.answer (put sample) =
          ({ ledger with
              clock := (put sample).now, database := (record sample state.database).database },
            ⟨(record sample state.database).result.map fun _ => .done,
              (record sample state.database).journal⟩) := by
        simp only [Ledger.answer, Ledger.step, puts, Ledger.after, Outcome.map]
      simp only [List.foldl_cons, putsOf_some, Ledger.run_request, Ledger.callReplies_request,
        stepped]
      have later := @ih { ledger with clock := (put sample).now } puts
      cases answered : (record sample state.database).result with
      | ok _ =>
        rw [IngestState.write_ok target answered]
        obtain ⟨tables, attempted, written, failed⟩ := later _
        refine ⟨congrArg (fun next : Ledger => { next with clock := ledger.clock }) tables,
          attempted, ?_, failed⟩
        rw [List.countP_cons_of_pos rfl]
        exact written.trans (Nat.add_right_comm _ _ _)
      | error failure =>
        rw [IngestState.write_error target answered]
        obtain ⟨tables, attempted, written, failed⟩ := later _
        refine ⟨congrArg (fun next : Ledger => { next with clock := ledger.clock }) tables,
          attempted, written, ?_⟩
        exact failed.trans (List.append_assoc _ _ _)

/-! ## The report -/

/-- The report is true to the targets and to the replies that the puts of their samples get. -/
structure IngestReport.IsTrue (report : IngestReport) (describe : Target → String)
    (targets : List Target) (arrived : List (Sampled α)) (replies : List Reply) : Prop where
  attempted : report.attempted = targets.length
  written : report.written = replies.countP Reply.isDone
  failed : report.failed = (unwritten arrived replies).map describe
  complete : report.attempted = report.written + report.failed.length
  isOk_iff : report.isOk = true ↔
    (∀ sampled ∈ arrived, sampled.sample.isSome = true) ∧
      ∀ reply ∈ replies, reply.isDone = true

/-- The step reports, and leaves exactly what the puts leave, one after the other. The clock stays
as it was before the step. -/
def Ledger.IngestsBy (ledger : Ledger) (step : Step) (describe : Target → String)
    (put : α → Request) (targets : List Target) (arrived : List (Sampled α)) : Prop :=
  ∃ report, (ledger.step step).2.result = .ok (.report report) ∧
    (ledger.step step).1 = { (ledger.run (putsOf put arrived)).1 with clock := ledger.clock } ∧
    report.IsTrue describe targets arrived (ledger.callReplies (putsOf put arrived))

/-- With a worker at hand an ingest only writes what arrives. -/
theorem ingest_ok {workers : Int} (positive : 0 < workers) (arrived : List (Sampled α))
    (database : Database) :
    let final := arrived.foldl (IngestState.write describe record)
      ⟨⟨arrived.length, 0, []⟩, database, []⟩
    (ingest describe record workers arrived database).result = .ok final.report ∧
      (ingest describe record workers arrived database).database = final.database := by
  unfold ingest
  cases arrived with
  | nil => exact ⟨rfl, rfl⟩
  | cons sampled arrived =>
    simp only [List.isEmpty_cons, Bool.false_eq_true, if_false, if_neg (Int.not_le.2 positive),
      and_self]

theorem ingest_run {ledger : Ledger} {workers : Int} {targets : List Target}
    {arrived : List (Sampled α)}
    (puts : ∀ sample database,
      (put sample).call.perform ledger.settings (put sample).now database =
        (record sample database).map fun _ => .done)
    (positive : 0 < workers) (complete : (arrived.map Sampled.target).Perm targets) :
    ∃ report, (ingest describe record workers arrived ledger.database).result = .ok report ∧
      { ledger with database := (ingest describe record workers arrived ledger.database).database }
        = { (ledger.run (putsOf put arrived)).1 with clock := ledger.clock } ∧
      report.IsTrue describe targets arrived (ledger.callReplies (putsOf put arrived)) := by
  have count : arrived.length = targets.length := by
    rw [← complete.length_eq, List.length_map]
  have answered : (ledger.callReplies (putsOf put arrived)).length =
      (arrived.filterMap Sampled.sample).length := ledger.length_callReplies arrived
  obtain ⟨reported, left⟩ :=
    ingest_ok describe record positive arrived ledger.database
  obtain ⟨tables, attempted, written, failed⟩ :=
    write_run describe record puts arrived ⟨⟨arrived.length, 0, []⟩, ledger.database, []⟩
  rw [Nat.zero_add] at written
  rw [List.nil_append] at failed
  refine ⟨_, reported, ?_, attempted.trans count, written, failed, ?_, ?_⟩
  · rw [left]
    exact tables.symm
  · rw [attempted, written, failed, List.length_map]
    exact (length_unwritten arrived _ answered).symm
  · rw [IngestReport.isOk, failed, List.isEmpty_iff, List.map_eq_nil_iff]
    exact unwritten_eq_nil_iff arrived _ answered

end Sequence

/-- **An ingest is its puts, one by one.** With a worker at hand, an ingest of rates or of prices
answers with a report, whatever the ledger is, whatever sampling its targets gives, and in whatever
order and at whatever times the samples arrive. It leaves what the puts of the samples leave in that
order and at those times, and its report counts and names the targets as they do. -/
theorem ingest_eq_puts (ledger : Ledger) (workers : Option Int) (targets : List Target)
    (positive : 0 < workersFor workers ledger.workers) :
    (∀ arrived : List (Sampled (Timed RateSample)), (arrived.map Sampled.target).Perm targets →
        ledger.IngestsBy (.ingestRates workers arrived) Target.asRate Timed.putRate targets
          arrived) ∧
      ∀ arrived : List (Sampled (Timed PriceSample)), (arrived.map Sampled.target).Perm targets →
        ledger.IngestsBy (.ingestPrices workers arrived) Target.asPrice Timed.putPrice targets
          arrived := by
  constructor
  · intro arrived complete
    have puts (timed : Timed RateSample) (database : Database) :
        timed.putRate.call.perform ledger.settings timed.putRate.now database =
          (recordRate ledger.settings timed.now timed.sample database).map fun _ => .done :=
      rfl
    obtain ⟨report, answered, tables, isTrue⟩ := ingest_run Target.asRate _ puts positive complete
    exact ⟨report, congrArg (Except.map Answer.report) answered, tables, isTrue⟩
  · intro arrived complete
    have puts (timed : Timed PriceSample) (database : Database) :
        timed.putPrice.call.perform ledger.settings timed.putPrice.now database =
          (recordPrice ledger.settings timed.now timed.sample database).map fun _ => .done :=
      rfl
    obtain ⟨report, answered, tables, isTrue⟩ :=
      ingest_run Target.asPrice _ puts positive complete
    exact ⟨report, congrArg (Except.map Answer.report) answered, tables, isTrue⟩

/-- A target that is asked for twice, and one that gives no sample. -/
def mixedTargets : List Target :=
  [⟨"tulip", "USDC"⟩, ⟨"solend", "RAY"⟩, ⟨"tulip", "USDC"⟩]

/-- What arrives of them, the last one first: a sample that names another platform, nothing, and,
when a window has passed, a sample that is not a number. -/
def mixedArrival {α : Type} (sample : String → Float → α) : List (Sampled (Timed α)) :=
  [⟨⟨"tulip", "USDC"⟩, some ⟨emptyLedger.clock, sample "francium" 0.5⟩⟩,
    ⟨⟨"solend", "RAY"⟩, none⟩,
    ⟨⟨"tulip", "USDC"⟩, some ⟨afterWindow, sample "tulip" (0.0 / 0.0)⟩⟩]

def mixedRates : List (Sampled (Timed RateSample)) :=
  mixedArrival fun platform rate =>
    ⟨platform, "USDC", rate, 0.5, 0.25, 8.0, 4.0, some emptyLedger.clock⟩

def mixedPrices : List (Sampled (Timed PriceSample)) :=
  mixedArrival fun platform price => ⟨"USDC", platform, price, 8.0, 4.0, some "mint"⟩

theorem mixed_ingest_eq_puts :
    0 < workersFor none emptyLedger.workers ∧
      emptyLedger.IngestsBy (.ingestRates none mixedRates) Target.asRate Timed.putRate
        mixedTargets mixedRates ∧
      emptyLedger.IngestsBy (.ingestPrices none mixedPrices) Target.asPrice Timed.putPrice
        mixedTargets mixedPrices :=
  have positive : 0 < workersFor none emptyLedger.workers := by decide
  have puts := ingest_eq_puts emptyLedger none mixedTargets positive
  have complete : [Target.mk "tulip" "USDC", ⟨"solend", "RAY"⟩, ⟨"tulip", "USDC"⟩].Perm
      mixedTargets := by decide
  ⟨positive, puts.1 mixedRates complete, puts.2 mixedPrices complete⟩

end FarmLedger
