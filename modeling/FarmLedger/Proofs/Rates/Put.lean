/-
# FarmLedger.Proofs.Rates.Put — what recording rates does to the two tables

A sample of rates is added to the log and joins the moving average of its name, in one transaction.
`Averages` lists how a row of averages comes out of a sample, as it was there or not, and
`recordRate_cases` says that recording either fails and changes nothing, or adds one row to the log
and puts such a row of averages to the end of its table or in the place of the first match
(`Records`). A property of single averages that every way establishes holds of all that a run
leaves (`run_average_rows`).

The name is in upper case as it is put together from the pair (`upper_rateName`), so that what the
lookup makes of it is the name itself.
-/
import FarmLedger.Proofs.Ledger.Requests
import FarmLedger.Proofs.Text.Upper
import FarmLedger.Proofs.Window.History

namespace FarmLedger

open FarmLedger.Number FarmLedger.Text FarmLedger.Time

/-! ## Names -/

def rateClause (name : String) : Clause .interestRateMovingAverage :=
  .oneOf .rateName [some (upper name)]

theorem compile_rateMatcher (name : String) :
    (rateMatcher name).compile .interestRateMovingAverage = .ok (rateClause name) :=
  rfl

theorem rateClause_holds {name : String} {row : Row .interestRateMovingAverage} :
    (rateClause name).holds row = true ↔ (row .rateName : String) = upper name := by
  simp [rateClause, Clause.holds, Row.has, Row.text?, Kind.asText?]

theorem upper_rateName (platform asset : String) :
    upper (rateName platform asset) = rateName platform asset := by
  unfold rateName
  rw [upper_hyphenated, upper_upper, upper_upper]

theorem rateName_upper (platform asset : String) :
    rateName (upper platform) (upper asset) = rateName platform asset := by
  unfold rateName
  rw [upper_upper, upper_upper]

/-! ## Rows -/

/-- The row's window is the given one, as far as a row can keep it. -/
def Row.KeepsRateWindow (row : Row .interestRateMovingAverage) (given : Window) : Prop :=
  ∃ kept, rateWindow row = .ok kept ∧ kept.Keeps given

structure Row.NamesPair (row : Row .interestRateMovingAverage) (platform asset name : String) :
    Prop where
  platform : (row .platform : String) = platform
  asset : (row .asset : String) = asset
  name : (row .rateName : String) = name

structure Row.Logs (row : Row .interestRate) (sample : RateSample) : Prop where
  platform : (row .platform : String) = sample.platform
  asset : (row .asset : String) = sample.asset
  lendingRate : ((row .lendingRate : Float) == sample.lendingRate) = true

/-- How a row of averages comes out of a sample, from the row that there was before. -/
inductive Averages (length : Duration) (now : Timestamp) (sample : RateSample) :
    Option (Row .interestRateMovingAverage) → Row .interestRateMovingAverage → Prop
  | created {window : Window} {row : Row .interestRateMovingAverage}
      (begun : Window.begin now length (some sample.lendingRate) = .ok window)
      (names : row.NamesPair sample.platform sample.asset sample.name)
      (keeps : row.KeepsRateWindow window) :
      Averages length now sample none row
  | revised {old row : Row .interestRateMovingAverage} {window : Window} {update : Window.Update}
      (held : rateWindow old = .ok window)
      (observed : (window.observeOrRollOver now sample.lendingRate length).result = .ok update)
      (names : row.NamesPair (old .platform) (old .asset) (old .rateName))
      (keeps : row.KeepsRateWindow
        (window.observeOrRollOver now sample.lendingRate length).window) :
      Averages length now sample (some old) row

/-- A window is read from the columns of the row. -/
theorem rateWindow_ok {row : Row .interestRateMovingAverage} {window : Window}
    (held : rateWindow row = .ok window) :
    (row .periodObservedRates : Option (List Float)) = some window.samples ∧
      (row .periodStart : Moment) = window.start ∧ (row .periodEnd : Moment) = window.finish := by
  unfold rateWindow at held
  split at held
  · cases held
  · next samples stored =>
    cases held
    exact ⟨stored, rfl, rfl⟩

theorem rateWindow_average {row : Row .interestRateMovingAverage} {window : Window}
    (held : rateWindow row = .ok window) :
    (row .periodRunningAverage : Float) = window.average := by
  unfold rateWindow at held
  split at held
  · cases held
  · cases held
    rfl

section Columns

variable {length : Duration} {now : Timestamp} {sample : RateSample} {window : Window}
  {old row : Row .interestRateMovingAverage} {rate : Row .interestRate}

theorem keepsRateWindow_of_holds
    (start : Kind.moment.Holds (row .periodStart) (some (.ofUtc window.start)))
    (finish : Kind.moment.Holds (row .periodEnd) (some (.ofUtc window.finish)))
    (samples : Kind.reals.Holds (row .periodObservedRates) (some window.samples))
    (average : Kind.real.Holds (row .periodRunningAverage) (some window.average))
    (lastAverage : Kind.real.Holds (row .lastPeriodRunningAverage) (some window.lastAverage)) :
    row.KeepsRateWindow window := by
  obtain ⟨items, stored, keeps⟩ := Window.Keeps.of_holds start finish samples average lastAverage
  refine ⟨_, ?_, keeps⟩
  unfold rateWindow
  rw [stored]

theorem logs_of_draft (filled : sample.draft.entries.fill = .ok rate) : rate.Logs sample := by
  have holds := Draft.holds filled
  exact ⟨(holds .platform).text, (holds .asset).text, (holds .lendingRate).real⟩

theorem averages_of_draft
    (begun : Window.begin now length (some sample.lendingRate) = .ok window)
    (filled : (sample.averageDraft window).entries.fill = .ok row) :
    Averages length now sample none row := by
  have holds := Draft.holds filled
  exact .created begun ⟨(holds .platform).text, (holds .asset).text, (holds .rateName).text⟩
    (keepsRateWindow_of_holds (holds .periodStart) (holds .periodEnd)
      (holds .periodObservedRates) (holds .periodRunningAverage)
      (holds .lastPeriodRunningAverage))

/-- A row takes the sample into the window that it holds. -/
theorem revise_rate_ok {revision : Revision .interestRateMovingAverage}
    (decided : (sample.revise now length old).result = .ok revision) :
    ∃ window update, rateWindow old = .ok window ∧
      (window.observeOrRollOver now sample.lendingRate length).result = .ok update ∧
      revision =
        averageRevision (window.observeOrRollOver now sample.lendingRate length).window := by
  unfold RateSample.revise at decided
  cases held : rateWindow old with
  | error _ => rw [held] at decided; cases decided
  | ok window =>
    simp only [held] at decided
    cases observed : (window.observeOrRollOver now sample.lendingRate length).result with
    | error _ => rw [observed] at decided; cases decided
    | ok update =>
      rw [observed] at decided
      cases decided
      exact ⟨window, update, rfl, observed, rfl⟩

theorem averages_of_revision {revision : Revision .interestRateMovingAverage}
    (decided : (sample.revise now length old).result = .ok revision)
    (filled : (revision.entries old).fill = .ok row) :
    Averages length now sample (some old) row := by
  obtain ⟨window, update, held, observed, rfl⟩ := revise_rate_ok decided
  have keeps := Revision.keeps filled
  exact .revised held observed ⟨keeps .platform rfl, keeps .asset rfl, keeps .rateName rfl⟩
    (keepsRateWindow_of_holds (Revision.holds filled .periodStart rfl)
      (Revision.holds filled .periodEnd rfl)
      (Revision.holds filled .periodObservedRates rfl)
      (Revision.holds filled .periodRunningAverage rfl)
      (Revision.holds filled .lastPeriodRunningAverage rfl))

end Columns

/-! ## Tables -/

/-- What recording a sample does to the two tables. -/
inductive Records (length : Duration) (now : Timestamp) (sample : RateSample)
    (before : Database) : Database → Prop
  | created {rates : Table .interestRate} {averages : Table .interestRateMovingAverage}
      {rate : Row .interestRate} {average : Row .interestRateMovingAverage}
      (ratesStand : before .interestRate = some rates)
      (averagesStand : before .interestRateMovingAverage = some averages)
      (fresh : averages.select (rateClause sample.name) = []) (logs : rate.Logs sample)
      (comes : Averages length now sample none average) :
      Records length now sample before
        ((before.put .interestRate (rates.append rate)).put .interestRateMovingAverage
          (averages.append average))
  | revised {rates : Table .interestRate} {averages : Table .interestRateMovingAverage}
      {rate : Row .interestRate} {average : Row .interestRateMovingAverage}
      {stored : Stored .interestRateMovingAverage}
      (ratesStand : before .interestRate = some rates)
      (averagesStand : before .interestRateMovingAverage = some averages)
      (found : (averages.select (rateClause sample.name)).head? = some stored)
      (logs : rate.Logs sample) (comes : Averages length now sample (some stored.row) average) :
      Records length now sample before
        ((before.put .interestRate (rates.append rate)).put .interestRateMovingAverage
          (averages.replace stored.id average))

/-- Recording rates that goes through adds to the log and upserts the average. -/
theorem recordRate_ran {settings : Settings} {now : Timestamp} {given : RateSample}
    {database : Database} {value : Unit}
    (done : (recordRate settings now given database).result = .ok value) :
    ∃ rates rate upserted, database .interestRate = some rates ∧
      given.folded.draft.entries.Makes (rates.rows.map Stored.row) rate ∧
      Upserts (rateClause given.folded.name)
        ((Window.begin now settings.windowLength (some given.lendingRate)).map
          given.folded.averageDraft)
        (given.folded.revise now settings.windowLength)
        (database.put .interestRate (rates.append rate)) upserted
        (recordRate settings now given database).database := by
  obtain ⟨after, ran, reached⟩ := transact_ok done
  obtain ⟨_, middle, inserted, ran⟩ := Transaction.ran_bind ran
  obtain ⟨rates, rate, stands, makes, put, _⟩ := Transaction.ran_insert inserted
  obtain ⟨upserted, _, ran, last⟩ := Transaction.ran_bind ran
  obtain ⟨_, rfl⟩ := Transaction.ran_pure last
  obtain ⟨clause, compiled, upserts⟩ := Transaction.ran_upsert ran
  obtain rfl : rateClause given.folded.name = clause :=
    Except.ok.inj ((compile_rateMatcher _).symm.trans compiled)
  rw [put] at upserts
  refine ⟨rates, rate, upserted, stands, makes, ?_⟩
  unfold recordRate
  rw [reached]
  exact upserts

/-- **Recording rates fails and changes nothing, or goes to both tables.** -/
theorem recordRate_cases (settings : Settings) (now : Timestamp) (given : RateSample)
    (database : Database) :
    (recordRate settings now given database).database = database ∨
      Records settings.windowLength now given.folded database
        (recordRate settings now given database).database := by
  cases answered : (recordRate settings now given database).result with
  | error failure => exact .inl (transact_error answered)
  | ok value =>
    right
    obtain ⟨rates, rate, upserted, ratesStand, makes, upserts⟩ := recordRate_ran answered
    have logs := logs_of_draft makes.filled
    have averages_ : (database.put .interestRate (rates.append rate)) .interestRateMovingAverage =
        database .interestRateMovingAverage := Database.put_other _ (by decide)
    generalize (recordRate settings now given database).database = next at upserts
    cases upserts with
    | created stands fresh drafted makes =>
      obtain ⟨window, begun, rfl⟩ := ok_of_map drafted
      rw [averages_] at stands
      exact .created ratesStand stands fresh logs (averages_of_draft begun makes.filled)
    | revised stands found decided makes =>
      rw [averages_] at stands
      exact .revised ratesStand stands found logs (averages_of_revision decided makes.filled)

/-! ## Requests and runs -/

variable {length : Duration} {now : Timestamp} {sample : RateSample} {before after : Database}
  {stored : Stored .interestRateMovingAverage}

/-- Where a row of averages comes from: it was there, or it comes out of the sample, as a new row
or from the one that was selected. -/
theorem Records.mem (records : Records length now sample before after)
    (mem : stored ∈ after.rows .interestRateMovingAverage) :
    stored ∈ before.rows .interestRateMovingAverage ∨
      Averages length now sample none stored.row ∨
      ∃ old ∈ before.rows .interestRateMovingAverage,
        (rateClause sample.name).holds old.row = true ∧
        Averages length now sample (some old.row) stored.row := by
  cases records with
  | created _ averagesStand fresh _ comes =>
    rw [Database.rows_put, Table.mem_append] at mem
    rw [Database.rows_of_table averagesStand]
    rcases mem with old | rfl
    · exact .inl old
    · exact .inr (.inl comes)
  | revised _ averagesStand found _ comes =>
    rw [Database.rows_put] at mem
    rw [Database.rows_of_table averagesStand]
    rcases Table.mem_replace mem with ⟨_, old⟩ | rfl
    · exact .inl old
    · have selected := List.mem_filter.1 (List.mem_of_mem_head? found)
      exact .inr (.inr ⟨_, selected.1, selected.2, comes⟩)

/-- Rates that are recorded are numbers. -/
theorem Records.number (records : Records length now sample before after) :
    sample.lendingRate.isNaN = false := by
  cases records with
  | created _ _ _ logs _ => exact not_isNaN_of_beq (beq_symm logs.lendingRate)
  | revised _ _ _ logs _ => exact not_isNaN_of_beq (beq_symm logs.lendingRate)

/-- **A request takes averages out, or records rates.** -/
theorem apply_average_cases (settings : Settings) (database : Database) (request : Request) :
    ((Request.apply settings database request).rows .interestRateMovingAverage).Sublist
        (database.rows .interestRateMovingAverage) ∨
      ∃ sample, request.call = .putInterestRate sample ∧
        Records settings.windowLength request.now sample.folded database
          (Request.apply settings database request) := by
  obtain ⟨now, call⟩ := request
  by_cases outside : .interestRateMovingAverage ∉ call.writes
  · left
    rw [Database.rows_congr (show Request.apply settings database ⟨now, call⟩
      .interestRateMovingAverage = _ from Call.perform_other outside)]
  · cases call with
    | putInterestRate sample =>
      rcases recordRate_cases settings now sample database with kept | records
      · left
        change ((recordRate settings now sample database).database.rows _).Sublist _
        rw [kept]
      · exact .inr ⟨sample, rfl, records⟩
    | delete e criterion =>
      obtain rfl : .interestRateMovingAverage = e := by simpa [Call.writes] using outside
      exact .inl (remove_sublist criterion database)
    | putSample log draft => cases log <;> exact absurd (by simp [Call.writes]) outside
    | putAccount account draft => cases account <;> exact absurd (by simp [Call.writes]) outside
    | _ => exact absurd (by simp [Call.writes]) outside

/-- **What every way to a row of averages establishes, all of them have after a run.** -/
theorem run_average_rows {P : Row .interestRateMovingAverage → Prop} {ledger : Ledger}
    {steps : List Step} (fresh : ledger.database = Database.fresh)
    (allowed : ∀ step ∈ steps, step.isRequest = true)
    (established : ∀ now sample old row, (∀ row, old = some row → P row) →
      sample.lendingRate.isNaN = false →
      Averages ledger.settings.windowLength now (RateSample.folded sample) old row → P row) :
    ∀ stored ∈ (ledger.run steps).1.database.rows .interestRateMovingAverage, P stored.row := by
  refine Ledger.run_invariant
    (P := fun database => ∀ stored ∈ database.rows .interestRateMovingAverage, P stored.row)
    allowed ?_ ?_
  · rw [fresh, Database.rows_fresh]
    exact List.forall_mem_nil _
  intro request database have_ stored mem
  rcases apply_average_cases ledger.settings database request with
    sublist | ⟨sample, _, records⟩
  · exact have_ stored (sublist.subset mem)
  · rcases records.mem mem with old | comes | ⟨old, oldMem, _, comes⟩
    · exact have_ stored old
    · refine established _ sample none stored.row ?_ records.number comes
      intro row none_
      cases none_
    · refine established _ sample (some old.row) stored.row ?_ records.number comes
      intro row same
      rw [← Option.some.inj same]
      exact have_ old oldMem

end FarmLedger
