/-
# FarmLedger.Proofs.Positions.Lifecycle — the record of a liquidation from its opening on

A liquidation is absent, open or closed, and closed again. The reports of many events come in any
order, some fail, and records are taken out in between. `Ledger.reportsOf` keeps, beside a run, what
no table keeps: the reports of an event that went through since its record was last taken out, each
with the id of the record that it went to.

`liquidation_lifecycle` is the main result: the record of an event is the one that the first of
these reports opened, with the end and the farm of the last, and it stays so, never opened again,
until it is taken out. A request spares the record of an event, reports of it or takes it out
(`Turn`); what each of the three means for the log is one case of `note_tells`, and what it means
for a record that is there is one case of `turn_continues`.
-/
import FarmLedger.Proofs.Positions.Liquidation
import FarmLedger.Proofs.Ledger.Undone

namespace FarmLedger

open FarmLedger.Time

/-! ## Reports that went through -/

/-- A report that went through, and the id of its record. -/
structure Recorded where
  id : Nat
  report : LiquidationReport

namespace Request

def takesOut (event : String) (request : Request) (database : Database) : Bool :=
  match request.call with
  | .delete .v1LiquidatedPosition criterion =>
    match Query.rows ({ criterion } : Query .v1LiquidatedPosition) none database with
    | .ok found => found.any fun stored => stored.row.IsOf event
    | .error _ => false
  | _ => false

/-- What the request reports of the event, if it goes through. -/
def recorded (event : String) (request : Request) (database : Database) : List Recorded :=
  match request.call with
  | .putLiquidation report =>
    if report.liquidationEventId = some event then
      match (routeLiquidation report database).result with
      | .ok upserted => [⟨upserted.id, report⟩]
      | .error _ => []
    else []
  | _ => []

/-- One of the requests takes out the record of the event. -/
def takenOut (settings : Settings) (event : String) : List Request → Database → Bool
  | [], _ => false
  | request :: requests, database =>
    request.takesOut event database ||
      takenOut settings event requests (request.apply settings database)

end Request

/-- The reports of an event after a request: none if its record is taken out. -/
def note (event : String) (request : Request) (database : Database) (entries : List Recorded) :
    List Recorded :=
  if request.takesOut event database then [] else entries ++ request.recorded event database

def noteAll (settings : Settings) (event : String) :
    List Request → Database → List Recorded → List Recorded
  | [], _, entries => entries
  | request :: requests, database, entries =>
    noteAll settings event requests (request.apply settings database)
      (note event request database entries)

namespace Ledger

/-- The reports of an event that went through in a run, since its record was last taken out. -/
def reportsOf (ledger : Ledger) (steps : List Step) (event : String) : List Recorded :=
  noteAll ledger.settings event (ledger.requests steps) ledger.database []

def takesOut (ledger : Ledger) (steps : List Step) (event : String) : Bool :=
  Request.takenOut ledger.settings event (ledger.requests steps) ledger.database

end Ledger

/-- The rows tell what was reported of an event: without a report there is no record, and otherwise
it is as the first report opened it and as the last one ended it. -/
def Tells (rows : List (Stored .v1LiquidatedPosition)) (event : String) : List Recorded → Prop
  | [] => ∀ stored ∈ rows, ¬ stored.row.IsOf event
  | first :: later => ∃ stored ∈ rows, stored.row.IsOf event ∧ stored.id = first.id ∧
      stored.row.Opens first.report ∧ stored.row.Ends (later.getLastD first).report ∧
      ∀ entry ∈ later, entry.id = first.id ∧ entry.report.endedAt.isSome = true

/-- The record is the old one with a later end or farm, and is open only if the old one was. -/
structure Row.Continues (row old : Row .v1LiquidatedPosition) : Prop where
  opening : row.KeepsOpening old
  ended : (old .endedAt : Option Moment).isSome = true →
    (row .endedAt : Option Moment).isSome = true

variable {settings : Settings} {event : String} {request : Request} {requests : List Request}
  {before after database : Database} {entries new : List Recorded}
  {old : Stored .v1LiquidatedPosition}

namespace Row.Continues

variable {row middle oldest : Row .v1LiquidatedPosition}

theorem refl (row : Row .v1LiquidatedPosition) : row.Continues row :=
  ⟨.refl row, id⟩

theorem trans (later : row.Continues middle) (earlier : middle.Continues oldest) :
    row.Continues oldest :=
  ⟨later.opening.trans earlier.opening, later.ended ∘ earlier.ended⟩

end Row.Continues

/-! ## One request -/

/-- What a request means for the record of an event. -/
inductive Turn (event : String) (before after : Database) : Bool → List Recorded → Prop
  | spared
      (same : ∀ stored : Stored .v1LiquidatedPosition, stored.row.IsOf event →
        (stored ∈ after.rows .v1LiquidatedPosition ↔ stored ∈ before.rows .v1LiquidatedPosition)) :
      Turn event before after false []
  | reported {report : LiquidationReport} {upserted : Upserted}
      (named : report.liquidationEventId = some event)
      (reports : Reports report before upserted after) :
      Turn event before after false [⟨upserted.id, report⟩]
  | takenOut (gone : ∀ stored ∈ after.rows .v1LiquidatedPosition, ¬ stored.row.IsOf event) :
      Turn event before after true []

theorem Turn.kept (same : after .v1LiquidatedPosition = before .v1LiquidatedPosition) :
    Turn event before after false [] :=
  .spared fun stored _ => by rw [Database.rows_congr same]

theorem eq_of_isOf {rows : List (Stored .v1LiquidatedPosition)}
    {a b : Stored .v1LiquidatedPosition} (onePerKey : OnePerKey rows) (memA : a ∈ rows)
    (memB : b ∈ rows) (ofA : a.row.IsOf event) (ofB : b.row.IsOf event) : a = b :=
  onePerKey a memA b memB (.name event) (congrArg (some ∘ NaturalKey.name) ofA)
    (congrArg (some ∘ NaturalKey.name) ofB)

theorem Reports.named {report : LiquidationReport} {upserted : Upserted}
    (reports : Reports report before upserted after) :
    ∃ named, report.liquidationEventId = some named := by
  cases reports with
  | opened _ _ opens _ => exact ⟨_, opens.liquidationEventId⟩
  | closed _ _ known _ _ _ => exact ⟨_, known⟩

/-- The report of another event spares the record. -/
theorem Reports.turn_other {report : LiquidationReport} {upserted : Upserted}
    (reports : Reports report before upserted after)
    (other : report.liquidationEventId ≠ some event) : Turn event before after false [] := by
  obtain ⟨named, known⟩ := reports.named
  refine .spared fun stored own => ?_
  have apart : ¬ stored.row.IsOf named := by
    intro same
    obtain rfl : event = named := own.symm.trans same
    exact other known
  have alike := congrArg (stored ∈ ·) (reports.spares known)
  simpa [List.mem_filter, apart] using alike

theorem turn_put {report : LiquidationReport} (called : request.call = .putLiquidation report) :
    Turn event database (request.apply settings database) (request.takesOut event database)
      (request.recorded event database) := by
  have applied : request.apply settings database = (routeLiquidation report database).database := by
    unfold Request.apply
    rw [called]
    exact congrArg Outcome.database Call.perform_putLiquidation
  rw [applied]
  simp only [Request.takesOut, Request.recorded, called]
  rcases report_cases report database with ⟨failure, failed, kept⟩ | ⟨upserted, done, reports⟩
  · rw [failed, kept]
    simp only [ite_self]
    exact .kept rfl
  · rw [done]
    by_cases named : report.liquidationEventId = some event
    · rw [if_pos named]
      exact .reported named reports
    · rw [if_neg named]
      exact reports.turn_other named

theorem turn_delete {criterion : Criterion}
    (onePerKey : OnePerKey (database.rows .v1LiquidatedPosition))
    (called : request.call = .delete .v1LiquidatedPosition criterion) :
    Turn event database (request.apply settings database) (request.takesOut event database)
      (request.recorded event database) := by
  have applied : request.apply settings database =
      (remove .v1LiquidatedPosition criterion database).database := by
    unfold Request.apply
    rw [called]
    rfl
  rw [applied]
  simp only [Request.takesOut, Request.recorded, called]
  cases asked : Query.rows ({ criterion } : Query .v1LiquidatedPosition) none database with
  | error failure =>
    rw [remove_error (remove_failed asked)]
    exact .kept rfl
  | ok found =>
    show Turn event database _ (found.any fun stored => stored.row.IsOf event) []
    cases hit : found.any fun stored => stored.row.IsOf event with
    | true =>
      obtain ⟨victim, victimMem, own⟩ := List.any_eq_true.1 hit
      refine .takenOut fun stored mem same => ?_
      obtain ⟨storedMem, spared⟩ := (mem_removed asked).1 mem
      have victimAmong := Database.read_subset asked victimMem
      -- There is no other record of the event than the one that is taken out.
      rw [eq_of_isOf onePerKey storedMem victimAmong same (of_decide_eq_true own)] at spared
      exact spared victimMem
    | false =>
      refine .spared fun stored own => ?_
      have spared : stored ∉ found := fun mem => by
        simpa [own] using List.any_eq_false.1 hit stored mem
      rw [mem_removed asked]
      exact and_iff_left spared

/-- **A request spares the record of an event, reports of it or takes it out.** -/
theorem request_turn (onePerKey : OnePerKey (database.rows .v1LiquidatedPosition)) :
    Turn event database (request.apply settings database) (request.takesOut event database)
      (request.recorded event database) := by
  obtain ⟨now, call⟩ := request
  cases call with
  | putLiquidation report => exact turn_put rfl
  | delete e criterion =>
    cases e with
    | v1LiquidatedPosition => exact turn_delete onePerKey rfl
    | _ => exact .kept (Call.perform_other nofun)
  | putAccount account draft => cases account <;> exact .kept (Call.perform_other nofun)
  | putSample log draft => cases log <;> exact .kept (Call.perform_other nofun)
  | _ => exact .kept (Call.perform_other nofun)

theorem apply_sound (sound : Sound (database.rows .v1LiquidatedPosition)) :
    Sound ((request.apply settings database).rows .v1LiquidatedPosition) :=
  request.call.perform_keeps (stable_sound .v1LiquidatedPosition) sound

/-! ### What it means for the reports -/

/-- The rows tell of an event by its own record alone. -/
theorem Tells.congr {rows others : List (Stored .v1LiquidatedPosition)}
    (same : ∀ stored : Stored .v1LiquidatedPosition, stored.row.IsOf event →
      (stored ∈ others ↔ stored ∈ rows))
    (tells : Tells rows event entries) : Tells others event entries := by
  cases entries with
  | nil =>
    intro stored mem own
    exact tells stored ((same stored own).1 mem) own
  | cons first later =>
    obtain ⟨stored, mem, own, rest⟩ := tells
    exact ⟨stored, (same stored own).2 mem, own, rest⟩

theorem Reports.tells {report : LiquidationReport} {upserted : Upserted}
    (onePerKey : OnePerKey (before.rows .v1LiquidatedPosition))
    (named : report.liquidationEventId = some event)
    (reports : Reports report before upserted after)
    (tells : Tells (before.rows .v1LiquidatedPosition) event entries) :
    Tells (after.rows .v1LiquidatedPosition) event (entries ++ [⟨upserted.id, report⟩]) := by
  cases reports with
  | @opened table row stands fresh opens ends =>
    rw [Database.rows_of_table stands] at tells
    rw [Database.rows_put]
    cases entries with
    | nil =>
      refine ⟨⟨table.nextId, row⟩, Table.mem_append.2 (.inr rfl), ?_, rfl, opens, ends,
        List.forall_mem_nil _⟩
      exact Option.some.inj (opens.liquidationEventId.symm.trans named)
    | cons first later =>
      obtain ⟨stored, mem, own, _⟩ := tells
      exact absurd (named.trans (congrArg some own.symm)) (fresh stored mem)
  | @closed table stored row stands mem known ended keeps ends =>
    rw [Database.rows_of_table stands] at tells onePerKey
    rw [Database.rows_put]
    have own : stored.row.IsOf event := Option.some.inj (known.symm.trans named)
    cases entries with
    | nil => exact absurd own (tells stored mem)
    | cons first later =>
      obtain ⟨told, toldMem, toldOwn, id, opens, _, closes⟩ := tells
      obtain rfl : told = stored := eq_of_isOf onePerKey toldMem mem toldOwn own
      refine ⟨⟨told.id, row⟩, Table.mem_replace_self row mem,
        keeps.liquidationEventId.trans own, id, keeps.opens opens, ?_, ?_⟩
      · show row.Ends ((later ++ [(⟨told.id, report⟩ : Recorded)]).getLastD first).report
        rw [List.getLastD_concat]
        exact ends
      · intro entry entryMem
        rcases List.mem_append.1 entryMem with earlier | last
        · exact closes entry earlier
        · rw [List.mem_singleton.1 last]
          exact ⟨id, ended⟩

/-- Each turn of an event is told. -/
theorem note_tells (sound : Sound (database.rows .v1LiquidatedPosition))
    (tells : Tells (database.rows .v1LiquidatedPosition) event entries) :
    Tells ((request.apply settings database).rows .v1LiquidatedPosition) event
      (note event request database entries) := by
  have turn := @request_turn settings event request database sound.onePerKey
  unfold note
  generalize request.takesOut event database = taken at turn ⊢
  generalize request.recorded event database = new at turn ⊢
  generalize request.apply settings database = after at turn ⊢
  cases turn with
  | spared same =>
    rw [if_neg Bool.false_ne_true, List.append_nil]
    exact tells.congr same
  | reported named reports =>
    rw [if_neg Bool.false_ne_true]
    exact reports.tells sound.onePerKey named tells
  | takenOut gone => exact gone

theorem noteAll_tells (sound : Sound (database.rows .v1LiquidatedPosition))
    (tells : Tells (database.rows .v1LiquidatedPosition) event entries) :
    Tells ((Request.applyAll settings requests database).rows .v1LiquidatedPosition) event
      (noteAll settings event requests database entries) := by
  induction requests generalizing database entries with
  | nil => exact tells
  | cons request requests ih => exact ih (apply_sound sound) (note_tells sound tells)

/-! ### What it means for the record -/

/-- A record that is not taken out is there afterwards. -/
theorem turn_continues (turn : Turn event before after false new)
    (mem : old ∈ before.rows .v1LiquidatedPosition) (own : old.row.IsOf event) :
    ∃ stored ∈ after.rows .v1LiquidatedPosition,
      stored.id = old.id ∧ stored.row.Continues old.row := by
  cases turn with
  | spared same => exact ⟨old, (same old own).2 mem, rfl, .refl _⟩
  | reported named reports =>
    cases reports with
    | opened stands fresh opens ends =>
      rw [Database.rows_of_table stands] at mem
      rw [Database.rows_put]
      exact ⟨old, Table.mem_append.2 (.inl mem), rfl, .refl _⟩
    | @closed table stored row stands storedMem known ended keeps ends =>
      rw [Database.rows_of_table stands] at mem
      rw [Database.rows_put]
      by_cases same : old.id = stored.id
      · obtain rfl : old = stored := Table.eq_of_id mem storedMem same
        refine ⟨⟨old.id, row⟩, Table.mem_replace_self row mem, rfl, keeps, fun _ => ?_⟩
        exact ends.isSome.trans ended
      · exact ⟨old, Table.mem_replace_other row mem same, rfl, .refl _⟩

theorem applyAll_continues (sound : Sound (database.rows .v1LiquidatedPosition))
    (stays : Request.takenOut settings event requests database = false)
    (mem : old ∈ database.rows .v1LiquidatedPosition) (own : old.row.IsOf event) :
    ∃ stored ∈ (Request.applyAll settings requests database).rows .v1LiquidatedPosition,
      stored.id = old.id ∧ stored.row.Continues old.row := by
  induction requests generalizing database old with
  | nil => exact ⟨old, mem, rfl, .refl _⟩
  | cons request requests ih =>
    obtain ⟨now, later⟩ := Bool.or_eq_false_iff.1 stays
    have turn := @request_turn settings event request database sound.onePerKey
    rw [now] at turn
    obtain ⟨middle, middleMem, id, continues⟩ := turn_continues turn mem own
    have middleOwn : middle.row.IsOf event := continues.opening.liquidationEventId.trans own
    obtain ⟨stored, storedMem, id', continues'⟩ :=
      ih (apply_sound sound) later middleMem middleOwn
    exact ⟨stored, storedMem, id'.trans id, continues'.trans continues⟩

/-! ## Runs -/

/-- What holds of an event when these of its reports went through. -/
structure Lifecycle (event : String) (ledger : Ledger) (entries : List Recorded) : Prop where
  /-- There is at most one record of the event. -/
  unique : ∀ a ∈ ledger.database.rows .v1LiquidatedPosition,
    ∀ b ∈ ledger.database.rows .v1LiquidatedPosition,
      a.row.IsOf event → b.row.IsOf event → a = b
  /-- The first report opened it, and the last one ended it. -/
  tells : Tells (ledger.database.rows .v1LiquidatedPosition) event entries
  /-- It does not end before it starts. -/
  ordered : ∀ stored ∈ ledger.database.rows .v1LiquidatedPosition, stored.row.IsOf event →
    ∀ finish, (stored.row .endedAt : Option Moment) = some finish →
      (stored.row .startedAt : Moment) ≤ finish
  /-- Until it is taken out it stays what it is, and is not opened again. -/
  lasts : ∀ later, (∀ step ∈ later, step.isRequest = true) →
    ledger.takesOut later event = false →
      ∀ old ∈ ledger.database.rows .v1LiquidatedPosition, old.row.IsOf event →
        ∃ stored ∈ (ledger.run later).1.database.rows .v1LiquidatedPosition,
          stored.id = old.id ∧ stored.row.Continues old.row
  /-- A report of it that brings no end is refused and changes nothing. -/
  refuses : ∀ stored ∈ ledger.database.rows .v1LiquidatedPosition, stored.row.IsOf event →
    ∀ report, report.liquidationEventId = some event → report.endedAt = none →
      (ledger.step (.call (.putLiquidation report))).2.result = .error report.refusal ∧
        (ledger.step (.call (.putLiquidation report))).1 = ledger
  /-- A report of the event leaves the other records as they are. -/
  spares : ∀ report, report.liquidationEventId = some event →
    (((ledger.step (.call (.putLiquidation report))).1.database.rows
        .v1LiquidatedPosition).filter fun stored => ¬ stored.row.IsOf event) =
      (ledger.database.rows .v1LiquidatedPosition).filter fun stored => ¬ stored.row.IsOf event

/-- **A liquidation is opened once, ended by the last report, and never opened again.** After any
run from an empty table the record of an event is the one that the first of its reports opened
since the last deletion, with the end and the farm of the last report. -/
theorem liquidation_lifecycle {ledger : Ledger} {steps : List Step}
    (none_ : ledger.database.rows .v1LiquidatedPosition = [])
    (allowed : ∀ step ∈ steps, step.isRequest = true) (event : String) :
    Lifecycle event (ledger.run steps).1 (ledger.reportsOf steps event) := by
  have sound := run_sound allowed none_
  have start : Sound (ledger.database.rows .v1LiquidatedPosition) ∧
      Tells (ledger.database.rows .v1LiquidatedPosition) event [] := by
    rw [none_]
    exact ⟨.nil, List.forall_mem_nil _⟩
  have tells : Tells ((ledger.run steps).1.database.rows .v1LiquidatedPosition) event
      (ledger.reportsOf steps event) := by
    rw [Ledger.run_requests allowed]
    exact noteAll_tells start.1 start.2
  generalize (ledger.run steps).1 = reached at sound tells
  have put (report : LiquidationReport) :
      reached.step (.call (.putLiquidation report)) =
        reached.after ((routeLiquidation report reached.database).map fun _ => .done) :=
    congrArg reached.after Call.perform_putLiquidation
  constructor
  · intro a memA b memB ofA ofB
    exact eq_of_isOf sound.onePerKey memA memB ofA ofB
  · exact tells
  · intro stored mem _ finish ended
    have kept := notBefore_of_conditions (sound.conditions stored mem)
    rw [ended] at kept
    exact of_decide_eq_true kept
  · intro later requests stays old mem own
    rw [Ledger.run_requests requests]
    exact applyAll_continues sound stays mem own
  · intro stored mem own report named endless
    have known : report.liquidationEventId = some (stored.row .liquidationEventId) :=
      named.trans (congrArg some own.symm)
    have refused : (reached.step (.call (.putLiquidation report))).2.result =
        .error report.refusal := by
      rw [put]
      show (routeLiquidation report reached.database).result.map _ = _
      rw [report_refused mem known endless]
      rfl
    exact ⟨refused, Ledger.step_undone refused⟩
  · intro report named
    rw [put]
    exact report_spares named

/-- A report of an event that started when the clock of an empty ledger did. -/
def reportAt (event farm : String) (endedAt : Option Timestamp) : LiquidationReport where
  tempLiquidationAccount := some "temp"
  authority := some "authority"
  userFarm := some "farm"
  liquidationEventId := some event
  obligation := some "obligation"
  leveragedFarm := some farm
  startedAt := some emptyLedger.clock
  endedAt := endedAt

/-- Two liquidations: one is closed twice and reported open in between, the other one is closed and
taken out. -/
def twoLiquidations : List Step := [
  .call (.putLiquidation (reportAt "first" "RAY" none)),
  .call (.putLiquidation (reportAt "second" "ORCA" none)),
  .call (.putLiquidation (reportAt "first" "RAY-2" (some afterWindow))),
  .call (.putLiquidation (reportAt "first" "RAY-3" none)),
  .call (.putLiquidation (reportAt "second" "ORCA" (some emptyLedger.clock))),
  .call (.putLiquidation (reportAt "first" "RAY-4" (some emptyLedger.clock))),
  .call (.delete .v1LiquidatedPosition
    (.matcher (.byField "liquidation_event_id" [some "second"])))]

/-- Three reports of the first event went through, and none of the second is left. -/
theorem twoLiquidations_lifecycle :
    (emptyLedger.reportsOf twoLiquidations "first").map
        (fun entry => (entry.id, entry.report.leveragedFarm)) =
      [(1, some "RAY"), (1, some "RAY-2"), (1, some "RAY-4")] ∧
    (emptyLedger.reportsOf twoLiquidations "second").length = 0 ∧
    ∀ event, Lifecycle event (emptyLedger.run twoLiquidations).1
      (emptyLedger.reportsOf twoLiquidations event) :=
  ⟨by decide +kernel, by decide +kernel, fun event =>
    liquidation_lifecycle rfl (by decide +kernel) event⟩

end FarmLedger
