/-
# FarmLedger.Proofs.Rates.Recorded — rates that go through

Rates whose figures are all numbers and whose moment can be stored (`RateSample.IsWhole`) are
recorded whatever their pair is called: in upper case the pair passes the conditions of the log,
which knows the letters `a` to `z` only. `recordRate_created` is such a sample where there is no
moving average of its name, and `recordRate_revised` one where there is. They are also the moves
from which runs with names of one's choice are made (`pairRates`).
-/
import FarmLedger.Proofs.Keys.Puts

namespace FarmLedger

open FarmLedger.Number FarmLedger.Text FarmLedger.Time

variable {settings : Settings} {now : Timestamp} {sample : RateSample} {database : Database}
  {window next : Window} {rates : Table .interestRate}
  {averages : Table .interestRateMovingAverage}

/-- **What the log and the upsert of a sample can do, recording does.** -/
theorem recordRate_upserts {rate : Row .interestRate} {upserted : Upserted} {next : Database}
    (stands : database .interestRate = some rates)
    (makes : sample.folded.draft.entries.Makes (rates.rows.map Stored.row) rate)
    (upserts : Upserts (rateClause sample.folded.name)
      ((Window.begin now settings.windowLength (some sample.lendingRate)).map
        sample.folded.averageDraft)
      (sample.folded.revise now settings.windowLength)
      (database.put .interestRate (rates.append rate)) upserted next) :
    (recordRate settings now sample database).result = .ok () ∧
      (recordRate settings now sample database).database = next := by
  have inserted := Database.insert_iff.2 ⟨rates, rate, stands, makes, rfl, rfl⟩
  obtain ⟨after, ran, reached⟩ := @Transaction.upsert_ran _
    ⟨database.put .interestRate (rates.append rate), []⟩
    (.matcher (rateMatcher sample.folded.name)) _ _ _ _ _ (compile_rateMatcher _) rfl upserts
  have whole : (putInterestRate settings now sample).Ran ⟨database, []⟩ () after :=
    Transaction.bind_ran (Transaction.insert_ran inserted)
      (Transaction.bind_ran ran (Transaction.pure_ran _ _))
  unfold recordRate
  rw [transact_ran whole]
  exact ⟨rfl, reached⟩

/-! ## What the rows take -/

/-- All figures of the sample are numbers, and its moment can be stored. -/
structure RateSample.IsWhole (sample : RateSample) : Prop where
  borrowRate : sample.borrowRate.isNaN = false
  utilizationRate : sample.utilizationRate.isNaN = false
  lendingRate : sample.lendingRate.isNaN = false
  availableAmount : sample.availableAmount.isNaN = false
  borrowedAmount : sample.borrowedAmount.isNaN = false
  scrapedAt : ∃ stamp moment, sample.scrapedAt = some stamp ∧ stamp.toStored = .ok moment

namespace RateSample

theorem IsWhole.draft_takes (whole : sample.IsWhole) (column : Entity.Column .interestRate) :
    (Entity.interestRate.kind column).Takes
      ((Entity.interestRate.kind column).orDefault (sample.folded.draft column)) := by
  cases column with
  | platform => exact .text _
  | asset => exact .text _
  | lendingRate => exact .real whole.lendingRate
  | borrowRate => exact .real whole.borrowRate
  | utilizationRate => exact .real whole.utilizationRate
  | availableAmount => exact .real whole.availableAmount
  | borrowedAmount => exact .real whole.borrowedAmount
  | scrapedAt =>
    obtain ⟨stamp, moment, given, stored⟩ := whole.scrapedAt
    show Kind.moment.Takes sample.scrapedAt
    rw [given]
    exact .stamp stored

/-- Whatever the pair is called, the sample goes to the log. -/
theorem IsWhole.makes (whole : sample.IsWhole) (others : List (Row .interestRate)) :
    ∃ rate, sample.folded.draft.entries.Makes others rate := by
  obtain ⟨rate, stamps, widths, filled⟩ := Draft.fills whole.draft_takes
  have logs := logs_of_draft filled
  have passes (text : String) : Schema.upperCase (upper text) = true := by
    rw [Schema.upperCase, asciiUpper_upper, beq_self_eq_true]
  have conditions : rate.checkConditions = .ok () := by
    have platform : Schema.upperCase (rate .platform) = true := by
      rw [logs.platform]
      exact passes sample.platform
    have asset : Schema.upperCase (rate .asset) = true := by
      rw [logs.asset]
      exact passes sample.asset
    simp [Row.checkConditions, platform, asset]
  exact ⟨rate, stamps, widths, filled, conditions, rfl⟩

end RateSample

theorem averageDraft_takes (number : window.average.isNaN = false)
    (lastNumber : window.lastAverage.isNaN = false)
    (column : Entity.Column .interestRateMovingAverage) :
    (Entity.interestRateMovingAverage.kind column).Takes
      ((Entity.interestRateMovingAverage.kind column).orDefault
        (sample.averageDraft window column)) := by
  cases column with
  | platform => exact .text _
  | asset => exact .text _
  | rateName => exact .text _
  | periodStart => exact .moment _
  | periodEnd => exact .moment _
  | periodRunningAverage => exact .real number
  | periodObservedRates => exact .reals _
  | lastPeriodRunningAverage => exact .real lastNumber

theorem averageRevision_takes (number : window.average.isNaN = false)
    (lastNumber : window.lastAverage.isNaN = false)
    (column : Entity.Column .interestRateMovingAverage)
    (given : Option (Entity.interestRateMovingAverage.kind column).Given)
    (set : averageRevision window column = .set given) :
    (Entity.interestRateMovingAverage.kind column).Takes given := by
  cases column with
  | periodStart =>
    cases set
    exact .moment _
  | periodEnd =>
    cases set
    exact .moment _
  | periodRunningAverage =>
    cases set
    exact .real number
  | periodObservedRates =>
    cases set
    exact .reals _
  | lastPeriodRunningAverage =>
    cases set
    exact .real lastNumber
  | _ => cases set

theorem checkConditions_average {row : Row .interestRateMovingAverage} :
    row.checkConditions = .ok () ↔ (row .periodStart : Moment) ≤ row .periodEnd := by
  by_cases ordered : (row .periodStart : Moment) ≤ row .periodEnd
  · simp [Row.checkConditions, ordered]
  · simp [Row.checkConditions, ordered]

/-! ## A new average, and one that is revised -/

/-- Rates that find no moving average make one. -/
theorem recordRate_created (whole : sample.IsWhole)
    (ratesStand : database .interestRate = some rates)
    (averagesStand : database .interestRateMovingAverage = some averages)
    (none_ : averages.select (rateClause sample.folded.name) = [])
    (begun : Window.begin now settings.windowLength (some sample.lendingRate) = .ok window)
    (ordered : window.start ≤ window.finish) :
    ∃ rate average, (recordRate settings now sample database).result = .ok () ∧
      (recordRate settings now sample database).database =
        (database.put .interestRate (rates.append rate)).put .interestRateMovingAverage
          (averages.append average) ∧
      average.NamesPair sample.folded.platform sample.folded.asset sample.folded.name ∧
      (average .periodObservedRates : Option (List Float)) = some [sample.lendingRate] ∧
      average.KeepsRateWindow window := by
  obtain ⟨start, finish, _, _, shape⟩ := Window.begin_ok begun
  have number : window.average.isNaN = false := by
    rw [shape]
    exact whole.lendingRate
  have lastNumber : window.lastAverage.isNaN = false := by
    rw [shape]
    show (0.0 : Float).isNaN = false
    decide +kernel
  have drafted : (Window.begin now settings.windowLength (some sample.lendingRate)).map
      sample.folded.averageDraft = .ok (sample.folded.averageDraft window) := by
    rw [begun]
    rfl
  obtain ⟨rate, logged⟩ := whole.makes (rates.rows.map Stored.row)
  obtain ⟨average, stamps, widths, filled⟩ :=
    Draft.fills (@averageDraft_takes sample.folded _ number lastNumber)
  have holds := Draft.holds filled
  have conditions : average.checkConditions = .ok () := by
    rw [checkConditions_average, (holds .periodStart).moment, (holds .periodEnd).moment]
    exact ordered
  have keys := (keyed_rate sample now settings.windowLength).created_keys none_ drafted filled
  have samples : (average .periodObservedRates : Option (List Float)) =
      some [sample.lendingRate] := by
    have value := Entries.value?_of_fill filled .periodObservedRates
    rw [shape] at value
    exact (Option.some.inj value).symm
  have stands : (database.put .interestRate (rates.append rate)) .interestRateMovingAverage =
      some averages := by
    rw [Database.put_other _ (by decide)]
    exact averagesStand
  obtain ⟨recorded, next⟩ := recordRate_upserts ratesStand logged
    (.created stands none_ drafted ⟨stamps, widths, filled, conditions, keys⟩)
  refine ⟨rate, average, recorded, next, ?_, samples, ?_⟩
  · exact ⟨(holds .platform).text, (holds .asset).text, (holds .rateName).text⟩
  · exact keepsRateWindow_of_holds (holds .periodStart) (holds .periodEnd)
      (holds .periodObservedRates) (holds .periodRunningAverage)
      (holds .lastPeriodRunningAverage)

/-- Rates that find a moving average revise the first one. -/
theorem recordRate_revised {stored : Stored .interestRateMovingAverage} {update : Window.Update}
    (whole : sample.IsWhole) (ratesStand : database .interestRate = some rates)
    (averagesStand : database .interestRateMovingAverage = some averages)
    (onePerKey : OnePerKey averages.rows)
    (found : (averages.select (rateClause sample.folded.name)).head? = some stored)
    (held : rateWindow stored.row = .ok window)
    (observed : (window.observeOrRollOver now sample.lendingRate settings.windowLength).result =
      .ok update)
    (joined : (window.observeOrRollOver now sample.lendingRate settings.windowLength).window =
      next)
    (number : next.average.isNaN = false) (lastNumber : next.lastAverage.isNaN = false)
    (ordered : next.start ≤ next.finish) :
    ∃ rate average, (recordRate settings now sample database).result = .ok () ∧
      (recordRate settings now sample database).database =
        (database.put .interestRate (rates.append rate)).put .interestRateMovingAverage
          (averages.replace stored.id average) ∧
      average.NamesPair (stored.row .platform) (stored.row .asset) (stored.row .rateName) ∧
      average.KeepsRateWindow next := by
  have decided : (sample.folded.revise now settings.windowLength stored.row).result =
      .ok (averageRevision next) := by
    have observed_ : (window.observeOrRollOver now sample.folded.lendingRate
        settings.windowLength).result = .ok update := observed
    unfold RateSample.revise
    simp only [held, observed_]
    exact congrArg (fun window => Except.ok (averageRevision window)) joined
  obtain ⟨rate, logged⟩ := whole.makes (rates.rows.map Stored.row)
  obtain ⟨average, stamps, widths, filled⟩ :=
    Revision.fills stored.row (averageRevision_takes number lastNumber)
  have kept := Revision.keeps filled
  have start := Revision.holds filled .periodStart rfl
  have finish := Revision.holds filled .periodEnd rfl
  have conditions : average.checkConditions = .ok () := by
    rw [checkConditions_average, Kind.Holds.moment start, Kind.Holds.moment finish]
    exact ordered
  have mem : stored ∈ averages.rows := List.mem_of_mem_filter (List.mem_of_mem_head? found)
  have keys := (keyed_rate sample now settings.windowLength).revised_keys onePerKey mem decided
    filled
  have stands : (database.put .interestRate (rates.append rate)) .interestRateMovingAverage =
      some averages := by
    rw [Database.put_other _ (by decide)]
    exact averagesStand
  obtain ⟨recorded, after⟩ := recordRate_upserts ratesStand logged
    (.revised stands found decided ⟨stamps, widths, filled, conditions, keys⟩)
  refine ⟨rate, average, recorded, after, ?_, ?_⟩
  · exact ⟨kept .platform rfl, kept .asset rfl, kept .rateName rfl⟩
  · exact keepsRateWindow_of_holds start finish (Revision.holds filled .periodObservedRates rfl)
      (Revision.holds filled .periodRunningAverage rfl)
      (Revision.holds filled .lastPeriodRunningAverage rfl)

theorem step_putInterestRate {ledger : Ledger}
    (recorded : (recordRate ledger.settings ledger.clock sample ledger.database).result = .ok ()) :
    (ledger.step (.call (.putInterestRate sample))).2.result = .ok .done := by
  show (recordRate ledger.settings ledger.clock sample ledger.database).result.map _ = _
  rw [recorded]
  rfl

/-! ## Rates of any pair -/

def pairRates (platform asset : String) (lendingRate : Float) : RateSample :=
  ⟨platform, asset, 0.5, 0.5, lendingRate, 8.0, 4.0, some emptyLedger.clock⟩

theorem pairRates_isWhole {platform asset : String} {lendingRate : Float}
    (number : lendingRate.isNaN = false) : (pairRates platform asset lendingRate).IsWhole := by
  have half : (0.5 : Float).isNaN = false := by decide +kernel
  have eight : (8.0 : Float).isNaN = false := by decide +kernel
  have four : (4.0 : Float).isNaN = false := by decide +kernel
  exact ⟨half, half, number, eight, four, emptyLedger.clock, _, rfl, Timestamp.toStored_ofUtc _⟩

end FarmLedger
