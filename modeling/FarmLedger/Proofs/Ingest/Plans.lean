/-
# FarmLedger.Proofs.Ingest.Plans — independent puts are planned beforehand

Two puts are independent if no row is looked up for both of them. What one of them does is then
known before the other is made, whether they fail, create or revise (`Recorder.plan_record`). So an
ingest of samples that are pairwise independent does to each table what its plans say, all of them
made before the first one is carried out (`Recorder.write_planned`).

Plans are carried out by deeds, and the order of deeds shows only in the order of the new rows.
Hence the order in which the samples arrive shows nowhere else (`Recorder.ingest_alike`).
-/
import FarmLedger.Proofs.Ingest.Sequence
import FarmLedger.Proofs.Keys.Plan

namespace FarmLedger

open FarmLedger.Time

/-- The reports say the same, up to the order in which they name targets that failed. -/
structure IngestReport.Alike (report other : IngestReport) : Prop where
  attempted : report.attempted = other.attempted
  written : report.written = other.written
  failed : report.failed.Perm other.failed

/-! ## Plans of puts -/

/-- For each table the deed in it, if there is one. -/
abbrev Deeds : Type :=
  (e : Entity) → Option (Deed e)

/-- The table after a deed, if there is one. -/
def Deed.applyAny {e : Entity} (table : Table e) (deed : Option (Deed e)) : Table e :=
  deed.elim table (Deed.apply table)

/-- The put does what is planned: it fails, or does the deeds and nothing else. -/
inductive Carries (database : Database) (outcome : Outcome Unit) : Option Deeds → Prop
  | fails {failure : Failure} (failed : outcome.result = .error failure)
      (kept : outcome.database = database) : Carries database outcome none
  | does {deeds : Deeds} (done : outcome.result = .ok ())
      (tables : ∀ e table, database e = some table →
        outcome.database e = some (Deed.applyAny table (deeds e))) :
      Carries database outcome (some deeds)

/-- A put carries out a plan that is made exactly if it goes through. -/
theorem Carries.of_ok {database : Database} {outcome : Outcome Unit} {plan : Option Deeds}
    (kept : ∀ failure, outcome.result = .error failure → outcome.database = database)
    (goes : ∀ deeds, plan = some deeds → outcome.result = .ok ())
    (planned : outcome.result = .ok () → ∃ deeds, plan = some deeds ∧
      ∀ e table, database e = some table →
        outcome.database e = some (Deed.applyAny table (deeds e))) :
    Carries database outcome plan := by
  cases answered : outcome.result with
  | error failure =>
    have none_ : plan = none := by
      refine Option.eq_none_iff_forall_ne_some.2 fun deeds same => ?_
      cases answered.symm.trans (goes deeds same)
    rw [none_]
    exact .fails answered (kept failure answered)
  | ok _ =>
    obtain ⟨deeds, rfl, tables⟩ := planned answered
    exact .does answered tables

/-- Puts that upsert in one table, and may add rows to others. -/
structure Recorder (e : Entity) (σ : Type) where
  puts : KeyedPuts e σ
  request : σ → Request
  settings : Settings
  record : σ → Database → Outcome Unit
  /-- All deeds of a put, given the one in its own table, unless the put fails anyway. -/
  deeds : σ → Deed e → Option Deeds
  perform : ∀ s database, (request s).call.perform settings (request s).now database =
    (record s database).map fun _ => .done
  own : ∀ {s deed all}, deeds s deed = some all → all e = some deed
  beside : ∀ {s deed all other beside}, deeds s deed = some all → other ≠ e →
    all other = some beside → ∃ row, beside = .add row
  carries : ∀ {s database}, (∀ other, ∃ table, database other = some table) →
    OnePerKey (database.rows e) →
      Carries database (record s database)
        (((database e).bind (puts.plan s)).bind (deeds s))

namespace Recorder

variable {e : Entity} {σ : Type} {recorder : Recorder e σ} {s t : σ} {database : Database}

/-- All tables stand, and the one that is looked up is as it should be. -/
structure Good (recorder : Recorder e σ) (database : Database) : Prop where
  stands : ∀ other, ∃ table, database other = some table
  sound : Sound (database.rows e)
  fine : ∀ stored ∈ database.rows e, recorder.puts.Fine stored.row

/-- The deeds of a put, unless it fails. -/
def plan (recorder : Recorder e σ) (s : σ) (database : Database) : Option Deeds :=
  ((database e).bind (recorder.puts.plan s)).bind (recorder.deeds s)

theorem Good.carries (good : recorder.Good database) :
    Carries database (recorder.record s database) (recorder.plan s database) :=
  recorder.carries good.stands good.sound.onePerKey

/-- What is planned comes from a deed in the table that is looked up. -/
theorem Good.does (good : recorder.Good database) {all : Deeds}
    (planned : recorder.plan s database = some all) :
    ∃ table deed, database e = some table ∧ recorder.puts.Does s table deed ∧
      recorder.deeds s deed = some all := by
  obtain ⟨deed, own, deeds⟩ := Option.bind_eq_some_iff.1 planned
  obtain ⟨table, stands, own⟩ := Option.bind_eq_some_iff.1 own
  have fine := good.fine
  rw [Database.rows_of_table stands] at fine
  exact ⟨table, deed, stands, KeyedPuts.does_of_plan fine own, deeds⟩

/-- A put leaves the tables good. -/
theorem Good.record (good : recorder.Good database) (s : σ) :
    recorder.Good (recorder.record s database).database := by
  have called : (recorder.record s database).database =
      (recorder.request s).apply recorder.settings database := by
    unfold Request.apply
    rw [recorder.perform]
    rfl
  refine ⟨fun other => ?_, ?_, ?_⟩
  · rw [called]
    have stands : (database other).isSome = true :=
      Option.isSome_iff_exists.2 (good.stands other)
    exact Option.isSome_iff_exists.1
      ((recorder.request s).call.perform_keeps (stable_stands other) stands)
  · rw [called]
    exact (recorder.request s).call.perform_keeps (stable_sound e) good.sound
  · have carried := good.carries (s := s)
    cases planned : recorder.plan s database with
    | none =>
      rw [planned] at carried
      cases carried with
      | fails _ kept =>
        rw [kept]
        exact good.fine
    | some all =>
      rw [planned] at carried
      obtain ⟨table, deed, stands, does, deeds⟩ := good.does planned
      have fine := good.fine
      rw [Database.rows_of_table stands] at fine
      cases carried with
      | does _ tables =>
        have next := tables e table stands
        rw [recorder.own deeds] at next
        rw [Database.rows_of_table next]
        exact does.fine fine

/-- **A put does not change the plan of an independent one.** -/
theorem plan_record (good : recorder.Good database) (apart : recorder.puts.Apart t s) :
    recorder.plan s (recorder.record t database).database = recorder.plan s database := by
  have carried := good.carries (s := t)
  cases planned : recorder.plan t database with
  | none =>
    rw [planned] at carried
    cases carried with
    | fails _ kept => rw [kept]
  | some all =>
    rw [planned] at carried
    obtain ⟨table, deed, stands, does, deeds⟩ := good.does planned
    have fine := good.fine
    rw [Database.rows_of_table stands] at fine
    cases carried with
    | does _ tables =>
      have next := tables e table stands
      rw [recorder.own deeds] at next
      unfold plan
      rw [next, stands, Option.bind_some, Option.bind_some]
      exact congrArg (Option.bind · (recorder.deeds s)) (KeyedPuts.plan_apart apart fine does)

theorem Good.within (good : recorder.Good database) {all : Deeds} {other : Entity}
    {deed : Deed other} {table : Table other} (planned : recorder.plan s database = some all)
    (listed : all other = some deed) (stands : database other = some table) :
    deed.Within table := by
  obtain ⟨table', deed', stands', does, deeds⟩ := good.does planned
  by_cases same : other = e
  · subst same
    rw [recorder.own deeds] at listed
    cases listed
    obtain rfl := Option.some.inj (stands.symm.trans stands')
    exact does.within
  · obtain ⟨row, rfl⟩ := recorder.beside deeds same listed
    trivial

theorem Good.deeds_apart (good : recorder.Good database) (apart : recorder.puts.Apart s t)
    {all others : Deeds} {other : Entity} {deed beside : Deed other}
    (planned : recorder.plan s database = some all)
    (planned' : recorder.plan t database = some others)
    (listed : all other = some deed) (listed' : others other = some beside) :
    deed.Apart beside := by
  obtain ⟨table, own, stands, does, deeds⟩ := good.does planned
  obtain ⟨table', own', stands', does', deeds'⟩ := good.does planned'
  by_cases same : other = e
  · subst same
    rw [recorder.own deeds] at listed
    rw [recorder.own deeds'] at listed'
    cases listed
    cases listed'
    obtain rfl := Option.some.inj (stands.symm.trans stands')
    have fine := good.fine
    rw [Database.rows_of_table stands] at fine
    exact KeyedPuts.deeds_apart apart fine does does'
  · obtain ⟨row, rfl⟩ := recorder.beside deeds same listed
    trivial

/-! ## Plans of an ingest -/

def plans (recorder : Recorder e σ) (database : Database) (arrived : List (Sampled σ)) :
    List (Target × Option Deeds) :=
  arrived.map fun sampled =>
    (sampled.target, sampled.sample.bind fun s => recorder.plan s database)

theorem plans_record {arrived : List (Sampled σ)} (good : recorder.Good database)
    (apart : ∀ s ∈ arrived.filterMap Sampled.sample, recorder.puts.Apart t s) :
    recorder.plans (recorder.record t database).database arrived =
      recorder.plans database arrived := by
  refine List.map_congr_left fun sampled mem => congrArg (Prod.mk sampled.target) ?_
  cases given : sampled.sample with
  | none => rfl
  | some s => exact plan_record good (apart s (List.mem_filterMap.2 ⟨sampled, mem, given⟩))

def reportOf (describe : Target → String) (plans : List (Target × Option Deeds))
    (report : IngestReport) : IngestReport where
  attempted := report.attempted
  written := report.written + plans.countP fun plan => plan.2.isSome
  failed := report.failed ++
    (plans.filter fun plan => plan.2.isNone).map fun plan => describe plan.1

def deedsIn (other : Entity) (plans : List (Target × Option Deeds)) : List (Deed other) :=
  plans.filterMap fun plan => plan.2.bind (· other)

section Cons

variable {describe : Target → String} {target : Target} {all : Deeds}
  {plans : List (Target × Option Deeds)} {report : IngestReport} {other : Entity}

theorem reportOf_cons_none :
    reportOf describe ((target, none) :: plans) report =
      reportOf describe plans { report with failed := report.failed ++ [describe target] } := by
  simp [reportOf]

theorem reportOf_cons_some :
    reportOf describe ((target, some all) :: plans) report =
      reportOf describe plans { report with written := report.written + 1 } := by
  simp [reportOf, Nat.add_assoc, Nat.add_comm 1]

theorem foldl_deedsIn_cons {table : Table other} :
    (deedsIn other ((target, some all) :: plans)).foldl Deed.apply table =
      (deedsIn other plans).foldl Deed.apply (Deed.applyAny table (all other)) := by
  cases listed : all other with
  | none => simp [deedsIn, listed, Deed.applyAny]
  | some deed => simp [deedsIn, listed, Deed.applyAny]

end Cons

/-- **An ingest of independent samples does what is planned beforehand.** -/
theorem write_planned (describe : Target → String) {arrived : List (Sampled σ)}
    (state : IngestState) (good : recorder.Good state.database)
    (apart : (arrived.filterMap Sampled.sample).Pairwise recorder.puts.Apart) :
    let final := arrived.foldl (IngestState.write describe recorder.record) state
    let plans := recorder.plans state.database arrived
    final.report = reportOf describe plans state.report ∧
      ∀ other table, state.database other = some table →
        final.database other = some ((deedsIn other plans).foldl Deed.apply table) := by
  induction arrived generalizing state with
  | nil =>
    refine ⟨?_, fun other table stands => stands⟩
    simp [reportOf, plans]
  | cons sampled arrived ih =>
    obtain ⟨target, _ | t⟩ := sampled
    · obtain ⟨report, tables⟩ := ih (state.fail (describe target)) good apart
      exact ⟨report.trans reportOf_cons_none.symm, tables⟩
    · -- the first put changes none of the plans that are left
      obtain ⟨rest, apart⟩ := List.pairwise_cons.1 apart
      have first : recorder.plans state.database (⟨target, some t⟩ :: arrived) =
          (target, recorder.plan t state.database) :: recorder.plans state.database arrived := rfl
      have carried := good.carries (s := t)
      rw [first, List.foldl_cons]
      generalize recorder.plan t state.database = plan at carried ⊢
      cases carried with
      | fails failed kept =>
        rw [IngestState.write_error target failed, kept]
        obtain ⟨report, tables⟩ :=
          ih ⟨{ state.report with failed := state.report.failed ++ [describe target] },
            state.database, _⟩ good apart
        exact ⟨report.trans reportOf_cons_none.symm, tables⟩
      | does done written =>
        rw [IngestState.write_ok target done]
        obtain ⟨report, tables⟩ :=
          ih ⟨{ state.report with written := state.report.written + 1 },
            (recorder.record t state.database).database, _⟩ (good.record t) apart
        simp only [plans_record good rest] at report tables
        refine ⟨report.trans reportOf_cons_some.symm, fun other table stands => ?_⟩
        rw [foldl_deedsIn_cons]
        exact tables other _ (written other table stands)

/-! ### Deeds of plans -/

theorem deedsIn_plans (other : Entity) (database : Database) (arrived : List (Sampled σ)) :
    deedsIn other (recorder.plans database arrived) =
      (arrived.filterMap Sampled.sample).filterMap fun s =>
        (recorder.plan s database).bind (· other) := by
  unfold deedsIn plans
  rw [List.filterMap_map, List.filterMap_filterMap]
  exact congrArg (List.filterMap · arrived) (funext fun sampled => Option.bind_assoc _ _ _)

theorem Good.deedsIn_within (good : recorder.Good database) {arrived : List (Sampled σ)}
    {other : Entity} {table : Table other} (stands : database other = some table) :
    ∀ deed ∈ deedsIn other (recorder.plans database arrived), deed.Within table := by
  intro deed mem
  rw [deedsIn_plans] at mem
  obtain ⟨s, _, same⟩ := List.mem_filterMap.1 mem
  obtain ⟨all, planned, listed⟩ := Option.bind_eq_some_iff.1 same
  exact good.within planned listed stands

theorem Good.deedsIn_apart (good : recorder.Good database) {arrived : List (Sampled σ)}
    (apart : (arrived.filterMap Sampled.sample).Pairwise recorder.puts.Apart) (other : Entity) :
    (deedsIn other (recorder.plans database arrived)).Pairwise Deed.Apart := by
  rw [deedsIn_plans]
  refine apart.filterMap _ fun s t apart deed first beside second => ?_
  obtain ⟨all, planned, listed⟩ := Option.bind_eq_some_iff.1 first
  obtain ⟨others, planned', listed'⟩ := Option.bind_eq_some_iff.1 second
  exact good.deeds_apart apart planned planned' listed listed'

/-! ## Two orders -/

theorem reportOf_alike {describe : Target → String} {plans others : List (Target × Option Deeds)}
    (perm : plans.Perm others) {report : IngestReport} :
    (reportOf describe plans report).Alike (reportOf describe others report) := by
  have named := (perm.filter fun plan => plan.2.isNone).map fun plan => describe plan.1
  exact ⟨rfl, congrArg (report.written + ·) (perm.countP_eq _), named.append_left _⟩

/-- **Independent samples may arrive in any order**, and then with a worker at hand the reports are
alike. -/
theorem ingest_alike (describe : Target → String) (workers : Int) {first second : List (Sampled σ)}
    (good : recorder.Good database) (perm : first.Perm second)
    (apart : (first.filterMap Sampled.sample).Pairwise recorder.puts.Apart) :
    let one := ingest describe recorder.record workers first database
    let other := ingest describe recorder.record workers second database
    (∀ e, AlikeUpToNew (database.rows e) (one.database.rows e) (other.database.rows e)) ∧
      (0 < workers → ∃ report others, one.result = .ok report ∧ other.result = .ok others ∧
        report.Alike others) := by
  by_cases positive : 0 < workers
  · obtain ⟨reported, left⟩ := ingest_ok describe recorder.record positive first database
    obtain ⟨otherReported, otherLeft⟩ := ingest_ok describe recorder.record positive second database
    obtain ⟨report, tables⟩ :=
      write_planned describe ⟨⟨first.length, 0, []⟩, database, []⟩ good apart
    obtain ⟨otherReport, otherTables⟩ :=
      write_planned describe ⟨⟨second.length, 0, []⟩, database, []⟩ good
        ((perm.filterMap _).pairwise apart recorder.puts.symm)
    have plansPerm : (recorder.plans database first).Perm (recorder.plans database second) :=
      perm.map _
    refine ⟨fun e => ?_, fun _ => ⟨_, _, reported, otherReported, ?_⟩⟩
    · obtain ⟨table, stands⟩ := good.stands e
      rw [Database.rows_of_table stands, left, otherLeft,
        Database.rows_of_table (tables e table stands),
        Database.rows_of_table (otherTables e table stands)]
      exact Deed.foldl_perm (plansPerm.filterMap _) (good.deedsIn_apart apart e)
        (good.deedsIn_within stands)
    · rw [report, otherReport, perm.length_eq]
      exact reportOf_alike plansPerm
  · -- without a worker neither of them writes anything
    refine ⟨fun e => ?_, fun positive' => absurd positive' positive⟩
    have nothing (arrived : List (Sampled σ)) : ingested workers arrived = [] :=
      if_pos (Int.not_lt.1 positive)
    rw [ingest_database, ingest_database, nothing, nothing]
    exact .refl _

end Recorder

/-- Two steps leave the same tables, up to the order and the ids of new rows, and with a worker at
hand they report the same, up to the order in which they name targets. -/
structure Ledger.StepsAlike (ledger : Ledger) (workers : Option Int) (step other : Step) : Prop
    where
  tables : ∀ e, AlikeUpToNew (ledger.database.rows e) ((ledger.step step).1.database.rows e)
    ((ledger.step other).1.database.rows e)
  reports : 0 < workersFor workers ledger.workers → ∃ report others,
    (ledger.step step).2.result = .ok (.report report) ∧
      (ledger.step other).2.result = .ok (.report others) ∧ report.Alike others

/-- Steps that ingest the same independent samples are alike. -/
theorem Recorder.Good.stepsAlike {e : Entity} {σ : Type} {recorder : Recorder e σ}
    {describe : Target → String} {ledger : Ledger} {workers : Option Int}
    {stepOf : List (Sampled σ) → Step}
    (good : recorder.Good ledger.database)
    (steps : ∀ arrived,
      let ingested := ingest describe recorder.record (workersFor workers ledger.workers) arrived
        ledger.database
      (ledger.step (stepOf arrived)).1.database = ingested.database ∧
        (ledger.step (stepOf arrived)).2.result = ingested.result.map .report)
    {first second : List (Sampled σ)} (perm : first.Perm second)
    (apart : (first.filterMap Sampled.sample).Pairwise recorder.puts.Apart) :
    ledger.StepsAlike workers (stepOf first) (stepOf second) := by
  obtain ⟨tables, reports⟩ := ingest_alike describe (workersFor workers ledger.workers) good perm
    apart
  obtain ⟨left, answered⟩ := steps first
  obtain ⟨otherLeft, otherAnswered⟩ := steps second
  rw [← left, ← otherLeft] at tables
  refine ⟨tables, fun positive => ?_⟩
  obtain ⟨report, others, one, other, alike⟩ := reports positive
  refine ⟨report, others, ?_, ?_, alike⟩
  · rw [answered, one]
    rfl
  · rw [otherAnswered, other]
    rfl

end FarmLedger
