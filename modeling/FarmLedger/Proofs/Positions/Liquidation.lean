/-
# FarmLedger.Proofs.Positions.Liquidation — what a report of a liquidation does to its record

`Reports` lists how a report comes to the record of its event: it opens it, or it brings an end to
the one that there is. `report_cases` says that a report either fails and changes nothing, or is one
of these, and `report_refused` that a report without an end of a known event fails as a duplicate.

`routeLiquidation` is such a report together with the answer of its upsert, which record it was.

No report reaches the records of other events (`report_spares`).
-/
import FarmLedger.Proofs.Keys.Puts

namespace FarmLedger

open FarmLedger.Time

variable {report : LiquidationReport} {before after database : Database} {upserted : Upserted}
  {row old : Row .v1LiquidatedPosition} {event : String}

/-! ## Rows -/

def Row.IsOf (row : Row .v1LiquidatedPosition) (event : String) : Prop :=
  (row .liquidationEventId : String) = event

instance (row : Row .v1LiquidatedPosition) (event : String) : Decidable (row.IsOf event) :=
  inferInstanceAs (Decidable (_ = _))

/-- The record is as the report opens it, but for the columns that closing sets. -/
structure Row.Opens (row : Row .v1LiquidatedPosition) (report : LiquidationReport) : Prop where
  liquidationEventId : report.liquidationEventId = some (row .liquidationEventId)
  tempLiquidationAccount : report.tempLiquidationAccount = some (row .tempLiquidationAccount)
  authority : report.authority = some (row .authority)
  userFarm : report.userFarm = some (row .userFarm)
  obligation : report.obligation = some (row .obligation)
  startedAt : report.startedAt.map Timestamp.toStored = some (.ok (row .startedAt))

/-- The record has the end and the farm of the report. -/
structure Row.Ends (row : Row .v1LiquidatedPosition) (report : LiquidationReport) : Prop where
  endedAt : report.endedAt.map Timestamp.toStored =
    (row .endedAt : Option Moment).map .ok
  leveragedFarm : report.leveragedFarm = some (row .leveragedFarm)

/-- The record is the old one, but for the columns that closing sets. -/
structure Row.KeepsOpening (row old : Row .v1LiquidatedPosition) : Prop where
  liquidationEventId : row .liquidationEventId = old .liquidationEventId
  tempLiquidationAccount : row .tempLiquidationAccount = old .tempLiquidationAccount
  authority : row .authority = old .authority
  userFarm : row .userFarm = old .userFarm
  obligation : row .obligation = old .obligation
  startedAt : row .startedAt = old .startedAt

theorem Row.KeepsOpening.refl (row : Row .v1LiquidatedPosition) : row.KeepsOpening row :=
  ⟨rfl, rfl, rfl, rfl, rfl, rfl⟩

theorem Row.KeepsOpening.trans {oldest : Row .v1LiquidatedPosition} (later : row.KeepsOpening old)
    (earlier : old.KeepsOpening oldest) : row.KeepsOpening oldest :=
  ⟨later.liquidationEventId.trans earlier.liquidationEventId,
    later.tempLiquidationAccount.trans earlier.tempLiquidationAccount,
    later.authority.trans earlier.authority, later.userFarm.trans earlier.userFarm,
    later.obligation.trans earlier.obligation, later.startedAt.trans earlier.startedAt⟩

theorem Row.KeepsOpening.opens (keeps : row.KeepsOpening old) (opens : old.Opens report) :
    row.Opens report :=
  ⟨keeps.liquidationEventId ▸ opens.liquidationEventId,
    keeps.tempLiquidationAccount ▸ opens.tempLiquidationAccount,
    keeps.authority ▸ opens.authority, keeps.userFarm ▸ opens.userFarm,
    keeps.obligation ▸ opens.obligation, keeps.startedAt ▸ opens.startedAt⟩

theorem opens_of_draft (stamps : report.draft.entries.checkStamps = .ok ())
    (filled : report.draft.entries.fill = .ok row) : row.Opens report := by
  have holds := Draft.holds filled
  exact ⟨(holds .liquidationEventId).handed, (holds .tempLiquidationAccount).handed,
    (holds .authority).handed, (holds .userFarm).handed, (holds .obligation).handed,
    (Draft.stores stamps filled .startedAt).moment⟩

theorem ends_of_draft (stamps : report.draft.entries.checkStamps = .ok ())
    (filled : report.draft.entries.fill = .ok row) : row.Ends report :=
  ⟨(Draft.stores stamps filled .endedAt).optionalMoment, (Draft.holds filled .leveragedFarm).handed⟩

theorem keepsOpening_of_closing (filled : (report.closing.entries old).fill = .ok row) :
    row.KeepsOpening old := by
  have keeps := Revision.keeps filled
  exact ⟨keeps .liquidationEventId rfl, keeps .tempLiquidationAccount rfl, keeps .authority rfl,
    keeps .userFarm rfl, keeps .obligation rfl, keeps .startedAt rfl⟩

theorem ends_of_closing (stamps : (report.closing.entries old).checkStamps = .ok ())
    (filled : (report.closing.entries old).fill = .ok row) : row.Ends report :=
  ⟨(Revision.stores stamps filled .endedAt rfl).optionalMoment,
    (Revision.holds filled .leveragedFarm rfl).handed⟩

/-- A record that a report with an end closes has an end. -/
theorem Row.Ends.isSome (ends : row.Ends report) :
    (row .endedAt : Option Moment).isSome = report.endedAt.isSome := by
  have same := congrArg Option.isSome ends.endedAt
  rw [Option.isSome_map, Option.isSome_map] at same
  exact same.symm

/-- A stored record does not end before it starts. -/
theorem notBefore_of_conditions (conditions : row.checkConditions = .ok ()) :
    Schema.notBefore (row .startedAt) (row .endedAt) = true := by
  unfold Row.checkConditions at conditions
  split at conditions
  · cases conditions
  · next kept =>
    have each := List.find?_eq_none.1 kept _ List.mem_cons_self
    simpa using each

/-! ## Reports -/

/-- How a report comes to the record of its event: it opens one, or closes the one that there is. -/
inductive Reports (report : LiquidationReport) (before : Database) : Upserted → Database → Prop
  | opened {table : Table .v1LiquidatedPosition} {row : Row .v1LiquidatedPosition}
      (stands : before .v1LiquidatedPosition = some table)
      (fresh : ∀ stored ∈ table.rows,
        report.liquidationEventId ≠ some (stored.row .liquidationEventId))
      (opens : row.Opens report) (ends : row.Ends report) :
      Reports report before ⟨table.nextId, true⟩
        (before.put .v1LiquidatedPosition (table.append row))
  | closed {table : Table .v1LiquidatedPosition} {stored : Stored .v1LiquidatedPosition}
      {row : Row .v1LiquidatedPosition} (stands : before .v1LiquidatedPosition = some table)
      (mem : stored ∈ table.rows)
      (known : report.liquidationEventId = some (stored.row .liquidationEventId))
      (ended : report.endedAt.isSome = true) (keeps : row.KeepsOpening stored.row)
      (ends : row.Ends report) :
      Reports report before ⟨stored.id, false⟩
        (before.put .v1LiquidatedPosition (table.replace stored.id row))

/-- Opens or closes the record of a liquidation, and tells which record it was. -/
def routeLiquidation (report : LiquidationReport) (database : Database) : Outcome Upserted :=
  transact
    (upsert .v1LiquidatedPosition (.matcher report.matcher) (.ok report.draft) fun _ =>
      report.revise)
    database

/-- A report is its upsert, whose answer is not passed on. -/
theorem Call.perform_putLiquidation {settings : Settings} {now : Timestamp} :
    (Call.putLiquidation report).perform settings now database =
      (routeLiquidation report database).map fun _ => .done := by
  have discards : transact (FarmLedger.putLiquidation report) database =
      (routeLiquidation report database).map fun _ => () := transact_discard _ database
  show (transact (FarmLedger.putLiquidation report) database).map (fun _ => Answer.done) = _
  rw [discards]
  unfold Outcome.map
  cases (routeLiquidation report database).result <;> rfl

theorem reports_of_upserts
    (upserts : Upserts (eventClause report.liquidationEventId) (.ok report.draft)
      (fun _ => report.revise) before upserted after) : Reports report before upserted after := by
  cases upserts with
  | created stands fresh drafted makes =>
    cases drafted
    refine .opened stands ?_ (opens_of_draft makes.stamps makes.filled)
      (ends_of_draft makes.stamps makes.filled)
    intro stored mem known
    exact List.filter_eq_nil_iff.1 fresh stored mem (eventClause_holds.2 known)
  | revised stands found decided makes =>
    obtain ⟨mem, selected⟩ := List.mem_filter.1 (List.mem_of_mem_head? found)
    unfold LiquidationReport.revise at decided
    split at decided
    · cases decided
    · next finish given =>
      cases decided
      exact .closed stands mem (eventClause_holds.1 selected) (given ▸ rfl)
        (keepsOpening_of_closing makes.filled) (ends_of_closing makes.stamps makes.filled)

/-- **A report fails and changes nothing, or it opens or closes the record of its event.** -/
theorem report_cases (report : LiquidationReport) (database : Database) :
    (∃ failure, (routeLiquidation report database).result = .error failure ∧
        (routeLiquidation report database).database = database) ∨
      ∃ upserted, (routeLiquidation report database).result = .ok upserted ∧
        Reports report database upserted (routeLiquidation report database).database := by
  rcases transact_cases (upsert .v1LiquidatedPosition (.matcher report.matcher)
    (.ok report.draft) fun _ => report.revise) database with
    ⟨upserted, after, ran, whole⟩ | failed
  · obtain ⟨clause, compiled, upserts⟩ := Transaction.ran_upsert ran
    obtain rfl : eventClause report.liquidationEventId = clause :=
      Except.ok.inj ((compile_event report).symm.trans compiled)
    right
    unfold routeLiquidation
    rw [whole]
    exact ⟨upserted, rfl, reports_of_upserts upserts⟩
  · exact .inl failed

/-- What a report without an end of a known event is told. -/
def LiquidationReport.refusal (report : LiquidationReport) : Failure :=
  .refused ⟨.duplicateOpen, Entity.table .v1LiquidatedPosition,
    "liquidation already recorded for " ++ shown report.tempLiquidationAccount,
    some report.matcher.describe⟩

/-- **A report without an end of a known event is refused**, be its record open or closed. -/
theorem report_refused {stored : Stored .v1LiquidatedPosition}
    (mem : stored ∈ database.rows .v1LiquidatedPosition)
    (known : report.liquidationEventId = some (stored.row .liquidationEventId))
    (endless : report.endedAt = none) :
    (routeLiquidation report database).result = .error report.refusal := by
  obtain ⟨table, stands⟩ := Database.table_of_mem mem
  rw [Database.rows_of_table stands] at mem
  have selected : stored ∈ table.select (eventClause report.liquidationEventId) :=
    List.mem_filter.2 ⟨mem, eventClause_holds.2 known⟩
  have refused : report.revise.result = .error report.refusal := by
    unfold LiquidationReport.revise
    rw [endless]
    rfl
  cases found : (table.select (eventClause report.liquidationEventId)).head? with
  | none =>
    rw [List.head?_eq_none_iff.1 found] at selected
    cases selected
  | some first =>
    have compiled : (Criterion.matcher report.matcher).compile .v1LiquidatedPosition =
        .ok (eventClause report.liquidationEventId) := compile_event report
    exact transact_failed (Transaction.upsert_refused compiled rfl stands found refused)

/-! ## Other events -/

theorem Reports.spares (reports : Reports report before upserted after)
    (named : report.liquidationEventId = some event) :
    ((after.rows .v1LiquidatedPosition).filter fun stored => ¬ stored.row.IsOf event) =
      (before.rows .v1LiquidatedPosition).filter fun stored => ¬ stored.row.IsOf event := by
  cases reports with
  | @opened table row stands _ opens _ =>
    have own : row.IsOf event := Option.some.inj (opens.liquidationEventId.symm.trans named)
    rw [Database.rows_put, Database.rows_of_table stands, Table.append, List.filter_append]
    simp [own]
  | @closed table stored row stands mem known _ keeps _ =>
    have old : stored.row.IsOf event := Option.some.inj (known.symm.trans named)
    have own : row.IsOf event := keeps.liquidationEventId.trans old
    rw [Database.rows_put, Database.rows_of_table stands]
    exact Table.filter_replace (f := fun row => ¬ row.IsOf event) mem (by simp [old])
      (by simp [own])

/-- **A report leaves the records of other events as they are.** -/
theorem report_spares (named : report.liquidationEventId = some event) :
    (((routeLiquidation report database).database.rows .v1LiquidatedPosition).filter
        fun stored => ¬ stored.row.IsOf event) =
      (database.rows .v1LiquidatedPosition).filter fun stored => ¬ stored.row.IsOf event := by
  rcases report_cases report database with ⟨_, _, kept⟩ | ⟨_, _, reports⟩
  · rw [kept]
  · exact reports.spares named

end FarmLedger
