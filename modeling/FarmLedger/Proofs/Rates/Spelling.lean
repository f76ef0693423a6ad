/-
# FarmLedger.Proofs.Rates.Spelling — rates are taken and found in any spelling

Four parties have a notion of upper case. Rates are brought to it when they are put, and the values
of a matcher when it is compiled; the tables check that names are in it, but know the letters `a`
to `z` only; and an operator looks for the name as it was typed. All of them agree, since upper
case stays as it is (`upper_upper`), passes for upper case in a table (`asciiUpper_upper`) and is
that of the parts (`upper_append`).

Hence rates go through whatever their pair is called, if their figures are numbers and the means
can be taken. What else could refuse them is ruled out by what every run keeps: the moving averages
hold numbers (`run_averages_inNumbers`), their windows do not end before they start, and no two of
them have one name (`run_sound`). A row that was written is then found by every name that has the
same upper case. Curves have no window to fit into, and for them the figures are all that counts.
-/
import FarmLedger.Command.Run
import FarmLedger.Proofs.Rates.Recorded
import FarmLedger.Proofs.Storage.OneRow
import FarmLedger.Proofs.Reading.Rows
import FarmLedger.Proofs.Window.Numbers

namespace FarmLedger

open FarmLedger.Number FarmLedger.Text FarmLedger.Time

/-! ## Moving averages of a run -/

/-- The window of the row is one of numbers. -/
def Row.IsInNumbers (row : Row .interestRateMovingAverage) : Prop :=
  ∃ window, rateWindow row = .ok window ∧ window.InNumbers

theorem run_averages_inNumbers {ledger : Ledger} {steps : List Step}
    (fresh : ledger.database = Database.fresh)
    (allowed : ∀ step ∈ steps, step.isRequest = true) :
    ∀ stored ∈ (ledger.run steps).1.database.rows .interestRateMovingAverage,
      stored.row.IsInNumbers := by
  refine run_average_rows (P := Row.IsInNumbers) fresh allowed ?_
  intro now sample old row before number comes
  cases comes with
  | created begun _ kept =>
    obtain ⟨kept, held, keeps⟩ := kept
    obtain ⟨_, _, _, _, rfl⟩ := Window.begin_ok begun
    exact ⟨kept, held, keeps.inNumbers (List.forall_mem_singleton.2 number)⟩
  | revised held observed _ kept =>
    obtain ⟨window, held', numbers⟩ := before _ rfl
    obtain rfl := Except.ok.inj (held'.symm.trans held)
    obtain ⟨kept, stays, keeps⟩ := kept
    exact ⟨kept, stays, keeps.inNumbers (numbers.next number observed)⟩

/-! ## Rates go through -/

section Accepted

variable {settings : Settings} {now : Timestamp} {sample : RateSample} {database : Database}

/-- The samples in the window of a rate, once it is in it: the rate alone if there is no moving
average of its name yet, or if the window of it is over. -/
def RateSample.windowSamples (sample : RateSample) (settings : Settings) (now : Timestamp)
    (averages : List (Stored .interestRateMovingAverage)) : List Float :=
  match (averages.find? fun stored => (rateClause sample.folded.name).holds stored.row).bind
    fun stored => (rateWindow stored.row).toOption with
  | none => [sample.lendingRate]
  | some window =>
    (window.observeOrRollOver now sample.lendingRate settings.windowLength).window.samples

/-- **Rates of numbers whose mean can be taken go through**, whatever their pair is called. -/
theorem recordRate_accepted {start finish : Moment} {rates : Table .interestRate}
    {averages : Table .interestRateMovingAverage} (whole : sample.IsWhole)
    (forward : 0 ≤ settings.windowLength.micros) (read : Window.utc now = .ok start)
    (ends : Window.finishOf start settings.windowLength = .ok finish)
    (ratesStand : database .interestRate = some rates)
    (averagesStand : database .interestRateMovingAverage = some averages)
    (sound : Sound averages.rows) (numbers : ∀ stored ∈ averages.rows, stored.row.IsInNumbers)
    (has : HasMean (sample.windowSamples settings now averages.rows)) :
    (recordRate settings now sample database).result = .ok () := by
  have head : averages.rows.find? (fun stored =>
      (rateClause sample.folded.name).holds stored.row) =
        (averages.select (rateClause sample.folded.name)).head? := List.head?_filter.symm
  unfold RateSample.windowSamples at has
  rw [head] at has
  cases found : (averages.select (rateClause sample.folded.name)).head? with
  | none =>
    have begun : Window.begin now settings.windowLength (some sample.lendingRate) =
        .ok ⟨start, finish, [sample.lendingRate], sample.lendingRate, 0.0⟩ :=
      bind_ok read (bind_ok ends rfl)
    obtain ⟨_, _, recorded, _⟩ := recordRate_created whole ratesStand averagesStand
      (List.head?_eq_none_iff.1 found) begun (Window.begin_ordered forward begun)
    exact recorded
  | some stored =>
    have mem : stored ∈ averages.rows := List.mem_of_mem_filter (List.mem_of_mem_head? found)
    obtain ⟨window, held, inNumbers⟩ := numbers stored mem
    rw [found, Option.bind_some, held] at has
    have ordered : window.start ≤ window.finish := by
      obtain ⟨_, start, finish⟩ := rateWindow_ok held
      rw [← start, ← finish]
      exact checkConditions_average.1 (sound.conditions stored mem)
    obtain ⟨update, next, observed, joined, number, lastNumber, ordered⟩ :=
      inNumbers.observes ordered whole.lendingRate forward read ends has
    obtain ⟨_, _, recorded, _⟩ := recordRate_revised whole ratesStand averagesStand
      sound.onePerKey found held observed joined number lastNumber ordered
    exact recorded

end Accepted

/-! ## What they leave -/

section Written

variable {settings : Settings} {now : Timestamp} {sample : RateSample} {before : Database}
  {window : Window} {old row : Row .interestRateMovingAverage} {name : String}

theorem rateClause_holds_draft
    (filled : (sample.folded.averageDraft window).entries.fill = .ok row) :
    (rateClause sample.folded.name).holds row = true := by
  have named : (row .rateName : String) = sample.folded.name :=
    (Draft.holds filled .rateName).text
  exact rateClause_holds.2 (named.trans (upper_rateName _ _).symm)

theorem rateClause_holds_revision (found : (rateClause name).holds old = true)
    (filled : ((averageRevision window).entries old).fill = .ok row) :
    (rateClause name).holds row = true := by
  have kept : (row .rateName : String) = old .rateName := Revision.keeps filled .rateName rfl
  exact rateClause_holds.2 (kept.trans (rateClause_holds.1 found))

/-- The sample is the last row of the log, and went to the only moving average of its name. -/
structure RateSample.Written (sample : RateSample) (before after : Database)
    (rate : Stored .interestRate) (average : Stored .interestRateMovingAverage) : Prop where
  logged : after.rows .interestRate = before.rows .interestRate ++ [rate]
  shows : rate.row.ShowsAll sample.folded.draft
  /-- The moving average is the very row that was created or changed. -/
  wrote : ∃ upserted : Upserted, upserted.Wrote (before.rows .interestRateMovingAverage) average
    (after.rows .interestRateMovingAverage)
  named : (average.row .rateName : String) = rateName sample.platform sample.asset

/-- **Rates that go through are the last row of the log**, and in the only moving average of their
name. -/
theorem recordRate_written (done : (recordRate settings now sample before).result = .ok ())
    (sound : Sound ((recordRate settings now sample before).database.rows
      .interestRateMovingAverage)) :
    ∃ rates rate averages average,
      (recordRate settings now sample before).database .interestRate = some rates ∧
      (recordRate settings now sample before).database .interestRateMovingAverage =
        some averages ∧
      averages.select (rateClause sample.folded.name) = [average] ∧
      sample.Written before (recordRate settings now sample before).database rate average := by
  obtain ⟨rates, rate, upserted, ratesStand, makes, upserts⟩ := recordRate_ran done
  generalize (recordRate settings now sample before).database = after at upserts sound ⊢
  obtain ⟨averages, average, rest, stands, found, wrote, _⟩ :=
    upserts.read_back (P := fun _ => True)
      (fun draft row drafted filled => by
        obtain ⟨window, _, rfl⟩ := ok_of_map drafted
        exact ⟨rateClause_holds_draft filled, trivial⟩)
      (fun old revision row selected decided filled => by
        obtain ⟨_, _, _, _, rfl⟩ := revise_rate_ok decided
        exact ⟨rateClause_holds_revision selected filled, trivial⟩)
  have named : ∀ stored ∈ averages.select (rateClause sample.folded.name),
      (stored.row .rateName : String) = sample.folded.name := fun stored mem =>
    (rateClause_holds.1 (List.mem_filter.1 mem).2).trans (upper_rateName _ _)
  have alone : rest = [] := by
    rw [Database.rows_of_table stands] at sound
    have keyed : ∀ stored ∈ averages.select (rateClause sample.folded.name),
        stored.row.naturalKey? = some (.name sample.folded.name) := fun stored mem =>
      congrArg (fun name => some (NaturalKey.name name)) (named stored mem)
    exact sound.onePerKey.rest_eq_nil found keyed
  subst alone
  have logs : after .interestRate = some (rates.append rate) := by
    rw [upserts.other_table (by decide), Database.put_same]
  have others : (before.put .interestRate (rates.append rate)).rows .interestRateMovingAverage =
      before.rows .interestRateMovingAverage :=
    Database.rows_congr (Database.put_other _ (by decide))
  refine ⟨rates.append rate, ⟨rates.nextId, rate⟩, averages, average, logs, stands, found, ?_⟩
  exact {
    logged := by
      rw [Database.rows_of_table logs, Database.rows_of_table ratesStand]
      rfl
    shows := Draft.shows makes.stamps makes.filled
    wrote := ⟨upserted, by rwa [others, ← Database.rows_of_table stands] at wrote⟩
    named := by
      rw [named average (found ▸ List.mem_cons_self)]
      exact rateName_upper _ _ }

end Written

/-! ## Every spelling finds them -/

section Reading

variable {database : Database} {rates : Table .interestRate}
  {averages : Table .interestRateMovingAverage} {rate : Stored .interestRate}
  {average : Stored .interestRateMovingAverage} {sample : RateSample} {platform asset : String}

def pairMatcher (platform asset : String) : Matcher :=
  .byFields ["platform", "asset"] [[some platform, some asset]]

/-- The sample of a pair is among those that are read for the pair in another spelling. -/
theorem readRows_pair (stands : database .interestRate = some rates) (mem : rate ∈ rates.rows)
    (shows : rate.row.ShowsAll sample.folded.draft)
    (samePlatform : upper platform = upper sample.platform)
    (sameAsset : upper asset = upper sample.asset) :
    ∃ found, readRows .interestRate (.matcher (pairMatcher platform asset)) none database =
      .ok found ∧ rate ∈ found := by
  let clause : Clause .interestRate :=
    .anyOf [[(.platform, some (upper platform)), (.asset, some (upper asset))]]
  have ofPlatform : (rate.row .platform : String) = upper platform :=
    (Option.some.inj (shows .platform)).symm.trans samePlatform.symm
  have ofAsset : (rate.row .asset : String) = upper asset :=
    (Option.some.inj (shows .asset)).symm.trans sameAsset.symm
  have selected : clause.holds rate.row = true := by
    simp [clause, Clause.holds, Row.has, Row.text?, Kind.asText?, ofPlatform, ofAsset]
  have compiled : (Criterion.matcher (pairMatcher platform asset)).compile .interestRate =
      .ok clause := rfl
  have checked : clause.check false = .ok () := rfl
  refine ⟨(Entity.interestRate.readOrder false).arrange (rates.select clause), ?_, ?_⟩
  · unfold readRows
    rw [Database.read_ordered _ compiled stands, checked]
    rfl
  · rw [RowOrder.mem_arrange]
    exact List.mem_filter.2 ⟨mem, selected⟩

/-- The moving average of a name is what is read for the name in another spelling. -/
theorem readRows_average (stands : database .interestRateMovingAverage = some averages)
    (found : averages.select (rateClause sample.folded.name) = [average])
    (samePlatform : upper platform = upper sample.platform)
    (sameAsset : upper asset = upper sample.asset) :
    readRows .interestRateMovingAverage (.matcher (rateMatcher (platform ++ "-" ++ asset))) none
      database = .ok [average] := by
  have sameName : upper (platform ++ "-" ++ asset) = upper sample.folded.name := by
    rw [upper_hyphenated, samePlatform, sameAsset]
    exact (upper_rateName _ _).trans (rateName_upper _ _) |>.symm
  have sameClause : rateClause (platform ++ "-" ++ asset) = rateClause sample.folded.name := by
    unfold rateClause
    rw [sameName]
  have compiled : (Criterion.matcher (rateMatcher (platform ++ "-" ++ asset))).compile
      .interestRateMovingAverage = .ok (rateClause sample.folded.name) := by
    rw [← sameClause]
    exact compile_rateMatcher _
  have asked := Database.read_eq compiled stands
  rw [found] at asked
  exact asked

end Reading

/-! ## The command finds them -/

section Commands

open Command

variable {settings : Settings} {clock : Timestamp} {session : Session} {sample : RateSample}
  {offer : RateOffer} {average : Stored .interestRateMovingAverage}

theorem carryOut_ran {α : Type} {work : Database → Outcome α} {value : α}
    (done : (work session.database).result = .ok value) :
    (carryOut work).Ran session value
      ⟨(work session.database).database,
        session.journal ++ (work session.database).journal⟩ := by
  unfold carryOut
  exact Transaction.bind_ran rfl (Transaction.bind_ran rfl (Transaction.ofExcept_ran done _))

/-- Rates that go through and whose moving average is read are what the command prints. -/
theorem putInterestRate_ran
    (offered : { offer with scrapedAt := .value (offer.scrapedAt.value?.getD clock) } =
      RateOffer.ofSample sample)
    (recorded : (recordRate settings clock sample session.database).result = .ok ())
    (asked : readRows .interestRateMovingAverage
      (.matcher (rateMatcher (sample.platform ++ "-" ++ sample.asset))) none
      (recordRate settings clock sample session.database).database = .ok [average]) :
    ∃ after, ((Request.putInterestRate offer).perform settings clock).Ran session average.toJson
        after ∧
      after.database = (recordRate settings clock sample session.database).database := by
  have platform : offer.platform = .value sample.platform := congrArg RateOffer.platform offered
  have asset : offer.asset = .value sample.asset := congrArg RateOffer.asset offered
  have offers : recordRateOffer settings clock
      { offer with scrapedAt := .value (offer.scrapedAt.value?.getD clock) } =
        recordRate settings clock sample := by
    funext database
    rw [offered, recordRateOffer, RateOffer.sample?_ofSample]
  have name : offer.platform.shown id ++ "-" ++ offer.asset.shown id =
      sample.platform ++ "-" ++ sample.asset := by
    rw [platform, asset]
    rfl
  have program : (Request.putInterestRate offer).perform settings clock =
      (carryOut (recordRate settings clock sample) >>= fun _ =>
        carryOut (ask (readRows .interestRateMovingAverage
          (.matcher (rateMatcher (sample.platform ++ "-" ++ sample.asset))) none)) >>=
        firstRow) := by
    rw [← offers, ← name]
    rfl
  rw [program]
  refine ⟨_, Transaction.bind_ran (carryOut_ran recorded) (Transaction.bind_ran
    (carryOut_ran ((transact_read _).trans asked)) (Transaction.pure_ran _ _)), ?_⟩
  exact ask_database _

end Commands

/-! ## Curves -/

section Curves

variable {curve : CurveSample} {draft : Draft .interestRateCurve} {row : Row .interestRateCurve}

theorem upper_of_upperOf {text : Option String} {name : String} (done : upperOf text = .ok name) :
    upper name = name := by
  cases text with
  | none => cases done
  | some text =>
    cases done
    exact upper_upper text

theorem upperOf_unchecked {text : Option String} {name : String} :
    upperOf text ≠ .error (.checkFailed name) := by
  cases text <;> exact nofun

/-- The name of a curve is put together from two names in upper case. -/
theorem CurveSample.checked (drafted : curve.draft = .ok draft)
    (filled : draft.entries.fill = .ok row) : row.checkConditions = .ok () := by
  obtain ⟨platform, ofPlatform, drafted⟩ := ok_of_bind drafted
  obtain ⟨asset, ofAsset, drafted⟩ := ok_of_bind drafted
  cases drafted
  have named : (row .rateName : String) = upper (platform ++ "-" ++ asset) := by
    rw [upper_hyphenated, upper_of_upperOf ofPlatform, upper_of_upperOf ofAsset]
    exact (Draft.holds filled .rateName).text
  have passes : Schema.upperCase (row .rateName) = true := by
    rw [named, Schema.upperCase, asciiUpper_upper, beq_self_eq_true]
  simp [Row.checkConditions, passes]

/-- A row that is only added goes through as its insertion does. -/
theorem append_result {e : Entity} (draft : Draft e) (database : Database) :
    (transact (append e draft) database).result = (database.insert e draft).map fun _ => () := by
  cases inserted : database.insert e draft with
  | error failure =>
    exact transact_failed (Transaction.first_failed (Transaction.insert_failed inserted))
  | ok written =>
    have ran : (append e draft).Ran ⟨database, []⟩ () ⟨written.1, []⟩ :=
      Transaction.bind_ran (Transaction.insert_ran inserted) (Transaction.pure_ran () _)
    rw [transact_ran ran]
    rfl

/-- **No curve breaks the condition of its table**: its name is in upper case. -/
theorem putCurve_unchecked (curve : CurveSample) (database : Database) (name : String) :
    (attempt (putCurve curve) database).result ≠ .error (.checkFailed name) := by
  intro failed
  unfold putCurve at failed
  cases drafted : curve.draft with
  | error failure =>
    rw [drafted] at failed
    cases Except.error.inj failed
    rcases error_of_bind drafted with missing | ⟨_, _, drafted⟩
    · exact upperOf_unchecked missing
    · rcases error_of_bind drafted with missing | ⟨_, _, made⟩
      · exact upperOf_unchecked missing
      · cases made
  | ok draft =>
    rw [drafted] at failed
    have refused := (append_result draft database).symm.trans failed
    cases inserted : database.insert .interestRateCurve draft with
    | error failure =>
      rw [inserted] at refused
      cases refused
      obtain ⟨row, filled, broken⟩ := Database.insert_checkFailed inserted
      cases (curve.checked drafted filled).symm.trans broken
    | ok _ =>
      rw [inserted] at refused
      cases refused

/-- The figure is given, and a number. -/
def IsFigure (given : Option Float) : Prop :=
  ∃ figure, given = some figure ∧ figure.isNaN = false

theorem IsFigure.takes {given : Option Float} (figure : IsFigure given) :
    Kind.real.Takes given := by
  obtain ⟨figure, rfl, number⟩ := figure
  exact .real number

/-- All texts of the curve are given, and so are all figures. -/
structure CurveSample.IsWhole (curve : CurveSample) : Prop where
  platform : curve.platform.isSome
  asset : curve.asset.isSome
  minBorrowRate : IsFigure curve.minBorrowRate
  maxBorrowRate : IsFigure curve.maxBorrowRate
  optimalBorrowRate : IsFigure curve.optimalBorrowRate
  optimalUtilizationRate : IsFigure curve.optimalUtilizationRate
  degenBorrowRate : IsFigure curve.degenBorrowRate
  degenUtilizationRate : IsFigure curve.degenUtilizationRate

theorem CurveSample.IsWhole.draft_takes (whole : curve.IsWhole) :
    ∃ draft, curve.draft = .ok draft ∧ ∀ column : Entity.Column .interestRateCurve,
      (Entity.interestRateCurve.kind column).Takes
        ((Entity.interestRateCurve.kind column).orDefault (draft column)) := by
  obtain ⟨platform, ofPlatform⟩ := Option.isSome_iff_exists.1 whole.platform
  obtain ⟨asset, ofAsset⟩ := Option.isSome_iff_exists.1 whole.asset
  unfold CurveSample.draft
  rw [ofPlatform, ofAsset]
  refine ⟨_, rfl, fun column => ?_⟩
  cases column with
  | platform => exact .text _
  | asset => exact .text _
  | rateName => exact .text _
  | minBorrowRate => exact whole.minBorrowRate.takes
  | maxBorrowRate => exact whole.maxBorrowRate.takes
  | optimalBorrowRate => exact whole.optimalBorrowRate.takes
  | optimalUtilizationRate => exact whole.optimalUtilizationRate.takes
  | degenBorrowRate => exact whole.degenBorrowRate.takes
  | degenUtilizationRate => exact whole.degenUtilizationRate.takes

/-- **Curves of numbers go through**, whatever their pair is called. -/
theorem putCurve_accepted {database : Database} {table : Table .interestRateCurve}
    (whole : curve.IsWhole) (stands : database .interestRateCurve = some table) :
    (attempt (putCurve curve) database).result = .ok () := by
  obtain ⟨draft, drafted, takes⟩ := whole.draft_takes
  obtain ⟨row, stamps, widths, filled⟩ := Draft.fills takes
  have makes : draft.entries.Makes (table.rows.map Stored.row) row :=
    ⟨stamps, widths, filled, curve.checked drafted filled, rfl⟩
  have inserted := Database.insert_iff.2 ⟨table, row, stands, makes, rfl, rfl⟩
  unfold putCurve
  rw [drafted]
  show (transact (append .interestRateCurve draft) database).result = _
  rw [append_result, inserted]
  rfl

end Curves

/-! ## The result -/

/-- A spelling of a pair finds the sample among others, and one moving average. -/
structure Ledger.Finds (ledger : Ledger) (platform asset : String) (rate : Stored .interestRate)
    (average : Stored .interestRateMovingAverage) : Prop where
  rate : ∃ found, (ledger.step (.call (.read .interestRate
      (.matcher (pairMatcher platform asset)) none))).2.result =
    .ok (.rows .interestRate found) ∧ rate ∈ found
  average : (ledger.step (.call (.read .interestRateMovingAverage
      (.matcher (rateMatcher (platform ++ "-" ++ asset))) none))).2.result =
    .ok (.rows .interestRateMovingAverage [average])

/-- **Rates are taken in any spelling, and found in any.** After any run from empty tables rates of
numbers go through, whatever their pair is called, if their window ends within the calendar and has
a mean. Every spelling with the same upper case then finds the sample and the one moving average
that it went to, and so does the command that puts rates. Curves of numbers go through as well, and
no curve breaks the condition on names. -/
theorem rates_taken_and_found {ledger before : Ledger} {steps : List Step} {sample : RateSample}
    {start finish : Moment} (fresh : ledger.database = Database.fresh)
    (allowed : ∀ step ∈ steps, step.isRequest = true) (reached : (ledger.run steps).1 = before)
    (whole : sample.IsWhole) (forward : 0 ≤ before.settings.windowLength.micros)
    (read : Window.utc before.clock = .ok start)
    (ends : Window.finishOf start before.settings.windowLength = .ok finish)
    (has : HasMean (sample.windowSamples before.settings before.clock
      (before.database.rows .interestRateMovingAverage))) :
    (before.step (.call (.putInterestRate sample))).2.result = .ok .done ∧
    (∃ rate average,
      sample.Written before.database (before.step (.call (.putInterestRate sample))).1.database
        rate average ∧
      (∀ platform asset, upper platform = upper sample.platform →
        upper asset = upper sample.asset →
        (before.step (.call (.putInterestRate sample))).1.Finds platform asset rate average) ∧
      -- The command adds the time where none is given, and prints the moving average.
      ∀ (offer : RateOffer) (journal : Journal),
        { offer with scrapedAt := .value (offer.scrapedAt.value?.getD before.clock) } =
          RateOffer.ofSample sample →
        ∃ after, ((Command.Request.putInterestRate offer).perform before.settings
            before.clock).Ran ⟨before.database, journal⟩ average.toJson after ∧
          after.database = (before.step (.call (.putInterestRate sample))).1.database) ∧
    ∀ curve : CurveSample,
      (curve.IsWhole → (before.step (.call (.putInterestRateCurve curve))).2.result = .ok .done) ∧
      ∀ name, (before.step (.call (.putInterestRateCurve curve))).2.result ≠
        .error (.checkFailed name) := by
  subst reached
  obtain ⟨rates, ratesStand⟩ := run_stands fresh allowed .interestRate
  obtain ⟨averages, averagesStand⟩ := run_stands fresh allowed .interestRateMovingAverage
  obtain ⟨curves, curvesStand⟩ := run_stands fresh allowed .interestRateCurve
  have none_ : ledger.database.rows .interestRateMovingAverage = [] := by
    rw [fresh, Database.rows_fresh]
  have sound := run_sound allowed none_
  have numbers := run_averages_inNumbers fresh allowed
  generalize (ledger.run steps).1 = before at *
  have soundAfter : Sound ((recordRate before.settings before.clock sample
      before.database).database.rows .interestRateMovingAverage) :=
    (Call.putInterestRate sample).perform_keeps (stable_sound _) sound
  rw [Database.rows_of_table averagesStand] at sound numbers has
  have recorded := recordRate_accepted whole forward read ends ratesStand averagesStand sound
    numbers has
  obtain ⟨logged, rate, moved, average, logs, stands, found, written⟩ :=
    recordRate_written recorded soundAfter
  have mem : rate ∈ logged.rows := by
    rw [← Database.rows_of_table logs, written.logged]
    exact List.mem_append_right _ (List.mem_singleton_self rate)
  refine ⟨step_putInterestRate recorded, ⟨rate, average, written, ?_, ?_⟩, ?_⟩
  · intro platform asset samePlatform sameAsset
    obtain ⟨ofPair, asked, among⟩ := readRows_pair logs mem written.shows samePlatform sameAsset
    exact ⟨⟨ofPair, step_read asked, among⟩,
      step_read (readRows_average stands found samePlatform sameAsset)⟩
  · intro offer journal offered
    exact putInterestRate_ran offered recorded (readRows_average stands found rfl rfl)
  · intro curve
    refine ⟨fun whole => ?_, fun name failed => ?_⟩
    · show (attempt (putCurve curve) before.database).result.map _ = _
      rw [putCurve_accepted whole curvesStand]
      rfl
    · exact putCurve_unchecked curve _ name (error_of_map failed)

/-- Rates of a pair whose asset becomes longer in upper case. -/
def sharpRates : List Step := [.call (.putInterestRate (pairRates "ray" "straße" 0.5))]

/-- The next rates spell the pair in another way, and a third spelling finds them. -/
theorem sharpRates_found :
    ((emptyLedger.run sharpRates).1.step
        (.call (.putInterestRate (pairRates "Ray" "STRASSE" 0.25)))).2.result = .ok .done ∧
      ∃ rate average, ((emptyLedger.run sharpRates).1.step
        (.call (.putInterestRate (pairRates "Ray" "STRASSE" 0.25)))).1.Finds "rAY" "strasse" rate
          average := by
  obtain ⟨window, begun⟩ := begin_emptyLedger 0.25
  obtain ⟨start, finish, read, ends, _⟩ := Window.begin_ok begun
  let samples := (pairRates "Ray" "STRASSE" 0.25).windowSamples emptyLedger.settings
    emptyLedger.clock ((emptyLedger.run sharpRates).1.database.rows .interestRateMovingAverage)
  have has : HasMean samples := by
    have taken : (mean samples).toOption = some 0.375 := by decide +kernel
    exact ⟨⟨_, toOption_eq_some.1 taken⟩, by decide +kernel⟩
  have whole : (pairRates "Ray" "STRASSE" 0.25).IsWhole := pairRates_isWhole (by decide +kernel)
  have allowed : ∀ step ∈ sharpRates, step.isRequest = true := by
    simp [sharpRates, Step.isRequest]
  obtain ⟨done, ⟨rate, average, _, finds, _⟩, _⟩ :=
    @rates_taken_and_found emptyLedger _ sharpRates _ _ _ rfl allowed rfl whole (by decide) read
      ends has
  exact ⟨done, rate, average, finds "rAY" "strasse" (by decide +kernel) (by decide +kernel)⟩

end FarmLedger
