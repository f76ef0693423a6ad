/-
# FarmLedger.Proofs.Rates.Drift — averages do not drift from the log of rates

Every sample of rates is kept twice, as a row of the log and in the window of its moving average.
The two are written in one transaction, and as long as no row of the log is taken out they agree:
the list of a moving average is the end of its log (`Row.Follows`), item by item, however many
windows were closed, and also where averages were taken out and begun anew.

What ties a moving average to its log is the name. Two pairs may have the same one, so the log of a
name (`lendingLog`) may hold rates of several pairs; but a name has one row of averages
(`RatesAgree.distinct`), which gets all of them.

`averages_follow_rates` is the result for runs; `RatesAgree` is the invariant that carries it, and
`Records.agree` its step.
-/
import FarmLedger.Proofs.Rates.Put
import FarmLedger.Proofs.Reading.Pairs
import Mathlib.Data.List.DropRight

namespace FarmLedger

open FarmLedger.Number FarmLedger.Text FarmLedger.Time

/-! ## Windows at the end of a log -/

/-- The window holds the last entries of a log, and their average. -/
structure Window.Ends (w : Window) (log : List Float) : Prop where
  some_ : w.samples ≠ []
  samples : sameReals w.samples (log.rtake w.samples.length) = true
  average : IsAverage w.samples w.average

namespace Window.Ends

variable {w given kept : Window} {now : Timestamp} {length : Duration} {sample entry : Float}
  {log : List Float}

theorem singleton {x average : Float} (first : (x == entry) = true)
    (same : (average == x) = true) (samples : w.samples = [x]) (mean : w.average = average) :
    w.Ends (log ++ [entry]) := by
  have last : (log ++ [entry]).rtake 1 = [entry] := by
    rw [List.rtake_concat_succ, List.rtake_zero, List.nil_append]
  refine ⟨?_, ?_, ?_⟩
  · rw [samples]
    exact List.cons_ne_nil _ _
  · rw [samples, List.length_singleton, last]
    simpa [sameReals] using first
  · rw [samples, mean]
    exact same

/-- A window that begins with the last entry. -/
theorem of_begun (keeps : kept.Keeps given) (samples : given.samples = [sample])
    (average : given.average = sample) (logged : (entry == sample) = true) :
    kept.Ends (log ++ [entry]) := by
  have number : sample.isNaN = false := not_isNaN_of_beq (beq_symm logged)
  have same : sameReals kept.samples [sample] = true := by
    apply keeps.sameReals
    rw [samples]
    exact sameReals_self (by simpa using number)
  obtain ⟨x, rest, equal, none_, items⟩ := List.forall₂_cons_right_iff.1 (sameReals_iff.1 same)
  rw [List.forall₂_nil_right_iff.1 none_] at items
  have mean := keeps.average
  rw [average] at mean
  exact singleton (beq_trans equal (beq_symm logged)) (beq_trans mean (beq_symm equal)) items rfl

theorem begin (begun : Window.begin now length (some sample) = .ok given)
    (keeps : kept.Keeps given) (logged : (entry == sample) = true) :
    kept.Ends (log ++ [entry]) := by
  obtain ⟨_, _, _, _, rfl⟩ := Window.begin_ok begun
  exact of_begun keeps rfl rfl logged

/-- **A sample that is logged and goes through ends the log again.** -/
theorem next {update : Update} (ends : w.Ends log)
    (observed : (w.observeOrRollOver now sample length).result = .ok update)
    (keeps : kept.Keeps (w.observeOrRollOver now sample length).window)
    (logged : (entry == sample) = true) : kept.Ends (log ++ [entry]) := by
  obtain ⟨_, _, ⟨_, finish, _, window⟩ | ⟨_, m, taken, window⟩⟩ :=
    Window.observeOrRollOver_ok observed
  · rw [window] at keeps
    exact of_begun keeps rfl rfl logged
  · rw [window] at keeps
    have old : sameReals w.samples w.samples = true :=
      sameReals_self (numbers_of_sameReals ends.samples)
    have number : sample.isNaN = false := not_isNaN_of_beq (beq_symm logged)
    have new : sameReals [sample] [sample] = true := sameReals_self (by simpa using number)
    have same : sameReals kept.samples (w.samples ++ [sample]) = true :=
      keeps.sameReals (sameReals_append old new)
    have count : kept.samples.length = w.samples.length + 1 := by
      rw [sameReals_length same, List.length_append, List.length_singleton]
    refine ⟨?_, ?_, ?_⟩
    · exact List.ne_nil_of_length_pos (by omega)
    · rw [count, List.rtake_concat_succ]
      have entry_ : sameReals [sample] [entry] = true := by
        simpa [sameReals] using beq_symm logged
      exact sameReals_trans same (sameReals_append ends.samples entry_)
    · have positive := List.length_pos_of_ne_nil ends.some_
      exact isAverage_refreshed (by omega) (sameReals_symm same) taken keeps.average

end Window.Ends

/-! ## The log of a name -/

/-- The lending rates that were logged under a name, in the order of their ids. -/
def lendingLog (database : Database) (name : String) : List Float :=
  ((database.rows .interestRate).filter fun rate =>
    rateName (rate.row .platform) (rate.row .asset) == name).map fun rate => rate.row .lendingRate

variable {before after database : Database} {rate : Row .interestRate} {sample : RateSample}
  {length : Duration} {now : Timestamp} {average : Stored .interestRateMovingAverage}

/-- A row that is logged ends the log of its name, and no other. -/
theorem lendingLog_snoc {id : Nat}
    (rows : after.rows .interestRate = before.rows .interestRate ++ [⟨id, rate⟩])
    (logs : rate.Logs sample) (name : String) :
    lendingLog after name =
      if sample.name = name then lendingLog before name ++ [(rate .lendingRate : Float)]
      else lendingLog before name := by
  have named : rateName (rate .platform) (rate .asset) = sample.name := by
    rw [logs.platform, logs.asset]
    rfl
  unfold lendingLog
  rw [rows, List.filter_append, List.map_append, List.filter_singleton, named]
  by_cases same : sample.name = name
  · rw [if_pos same, beq_iff_eq.2 same]
    rfl
  · rw [if_neg same, beq_false_of_ne same]
    exact List.append_nil _

/-! ## The invariant -/

/-- Averages and log agree: a name has one row of averages, each ends the log of its name, and its
pair is in the log. -/
structure RatesAgree (database : Database) : Prop where
  distinct : ((database.rows .interestRateMovingAverage).map fun average =>
    (average.row .rateName : String)).Nodup
  ends : ∀ average ∈ database.rows .interestRateMovingAverage, ∃ window,
    rateWindow average.row = .ok window ∧
      window.Ends (lendingLog database (average.row .rateName))
  logged : ∀ average ∈ database.rows .interestRateMovingAverage,
    ∃ rate ∈ database.rows .interestRate,
      (rate.row .platform : String) = average.row .platform ∧
        (rate.row .asset : String) = average.row .asset

namespace RatesAgree

theorem fresh : RatesAgree .fresh := by
  constructor
  · rw [Database.rows_fresh]
    exact List.nodup_nil
  · rw [Database.rows_fresh]
    exact List.forall_mem_nil _
  · rw [Database.rows_fresh]
    exact List.forall_mem_nil _

/-- Averages may be taken out. -/
theorem sublist (agree : RatesAgree before)
    (rates : after.rows .interestRate = before.rows .interestRate)
    (averages : (after.rows .interestRateMovingAverage).Sublist
      (before.rows .interestRateMovingAverage)) : RatesAgree after := by
  have log : lendingLog after = lendingLog before := by
    funext name
    unfold lendingLog
    rw [rates]
  constructor
  · exact agree.distinct.sublist (averages.map _)
  · intro average mem
    rw [log]
    exact agree.ends average (averages.subset mem)
  · intro average mem
    rw [rates]
    exact agree.logged average (averages.subset mem)

end RatesAgree

/-- A row of averages of another name does not see a sample. -/
theorem ends_other {id : Nat} (agree : RatesAgree before)
    (rows : after.rows .interestRate = before.rows .interestRate ++ [⟨id, rate⟩])
    (logs : rate.Logs sample) (mem : average ∈ before.rows .interestRateMovingAverage)
    (other : (average.row .rateName : String) ≠ sample.name) :
    ∃ window, rateWindow average.row = .ok window ∧
      window.Ends (lendingLog after (average.row .rateName)) := by
  obtain ⟨window, held, ends⟩ := agree.ends average mem
  refine ⟨window, held, ?_⟩
  rw [lendingLog_snoc rows logs, if_neg (Ne.symm other)]
  exact ends

theorem logged_other {id : Nat} (agree : RatesAgree before)
    (rows : after.rows .interestRate = before.rows .interestRate ++ [⟨id, rate⟩])
    (mem : average ∈ before.rows .interestRateMovingAverage) :
    ∃ rate ∈ after.rows .interestRate,
      (rate.row .platform : String) = average.row .platform ∧
        (rate.row .asset : String) = average.row .asset := by
  obtain ⟨rate, rateMem, pair⟩ := agree.logged average mem
  refine ⟨rate, ?_, pair⟩
  rw [rows]
  exact List.mem_append_left _ rateMem

/-- The pair of the sample is in the log once it is recorded. -/
theorem logged_sample {id : Nat}
    (rows : after.rows .interestRate = before.rows .interestRate ++ [⟨id, rate⟩])
    (logs : rate.Logs sample) :
    ∃ rate ∈ after.rows .interestRate,
      (rate.row .platform : String) = sample.platform ∧
        (rate.row .asset : String) = sample.asset := by
  refine ⟨⟨id, rate⟩, ?_, logs.platform, logs.asset⟩
  rw [rows]
  exact List.mem_append_right _ List.mem_cons_self

theorem agree_created {table : Table .interestRateMovingAverage} {id : Nat}
    {row : Row .interestRateMovingAverage} (agree : RatesAgree before)
    (rows : after.rows .interestRate = before.rows .interestRate ++ [⟨id, rate⟩])
    (stands : before.rows .interestRateMovingAverage = table.rows)
    (averages : after.rows .interestRateMovingAverage = (table.append row).rows)
    (fresh : ∀ average ∈ table.rows, (average.row .rateName : String) ≠ sample.name)
    (logs : rate.Logs sample) (comes : Averages length now sample none row) :
    RatesAgree after := by
  cases comes with
  | created begun names keeps =>
    obtain ⟨kept, held, keeps⟩ := keeps
    constructor
    · rw [averages, Table.append, List.map_append, List.map_singleton, List.nodup_append]
      refine ⟨stands ▸ agree.distinct, List.nodup_singleton _, ?_⟩
      intro name mem other isNew same
      obtain ⟨average, averageMem, rfl⟩ := List.mem_map.1 mem
      have new : other = sample.name := (List.mem_singleton.1 isNew).trans names.name
      exact fresh average averageMem (same.trans new)
    · intro average mem
      rw [averages, Table.mem_append] at mem
      rcases mem with old | rfl
      · exact ends_other agree rows logs (stands ▸ old) (fresh average old)
      · refine ⟨kept, held, ?_⟩
        rw [names.name, lendingLog_snoc rows logs, if_pos rfl]
        exact Window.Ends.begin begun keeps logs.lendingRate
    · intro average mem
      rw [averages, Table.mem_append] at mem
      rcases mem with old | rfl
      · exact logged_other agree rows (stands ▸ old)
      · rw [names.platform, names.asset]
        exact logged_sample rows logs

theorem agree_revised {table : Table .interestRateMovingAverage} {id : Nat}
    {first : Stored .interestRateMovingAverage} {row : Row .interestRateMovingAverage}
    (agree : RatesAgree before)
    (rows : after.rows .interestRate = before.rows .interestRate ++ [⟨id, rate⟩])
    (stands : before.rows .interestRateMovingAverage = table.rows)
    (averages : after.rows .interestRateMovingAverage = (table.replace first.id row).rows)
    (mem : first ∈ table.rows) (named : (first.row .rateName : String) = sample.name)
    (logs : rate.Logs sample) (comes : Averages length now sample (some first.row) row) :
    RatesAgree after := by
  have firstMem : first ∈ before.rows .interestRateMovingAverage := stands ▸ mem
  cases comes with
  | @revised _ _ window update held observed names keeps =>
    obtain ⟨kept, heldAfter, keeps⟩ := keeps
    constructor
    · rw [averages]
      have kept : ((table.replace first.id row).rows.map fun average =>
          (average.row .rateName : String)) =
            table.rows.map fun average => (average.row .rateName : String) :=
        @Table.map_replace _ _ _
          (fun row : Row .interestRateMovingAverage => (row .rateName : String)) _ _ mem names.name
      rw [kept, ← stands]
      exact agree.distinct
    · intro average averageMem
      rw [averages] at averageMem
      rcases Table.mem_replace averageMem with ⟨different, old⟩ | rfl
      · refine ends_other agree rows logs (stands ▸ old) ?_
        intro same
        have equal : average = first :=
          List.inj_on_of_nodup_map agree.distinct (stands ▸ old) firstMem (same.trans named.symm)
        exact different (congrArg Stored.id equal)
      · obtain ⟨window', held', ends⟩ := agree.ends first firstMem
        obtain rfl : window' = window := Except.ok.inj (held'.symm.trans held)
        refine ⟨kept, heldAfter, ?_⟩
        rw [names.name, lendingLog_snoc rows logs, if_pos named.symm]
        exact ends.next observed keeps logs.lendingRate
    · intro average averageMem
      rw [averages] at averageMem
      rcases Table.mem_replace averageMem with ⟨_, old⟩ | rfl
      · exact logged_other agree rows (stands ▸ old)
      · rw [names.platform, names.asset]
        exact logged_other agree rows firstMem

/-- **A sample that is recorded keeps averages and log in agreement.** -/
theorem Records.agree (records : Records length now sample before after)
    (named : upper sample.name = sample.name) (agree : RatesAgree before) : RatesAgree after := by
  have apart : Entity.interestRateMovingAverage ≠ .interestRate := by decide
  have logged {rates : Table .interestRate} (stands : before .interestRate = some rates)
      (rate : Row .interestRate) (averages : Table .interestRateMovingAverage) :
      ((before.put .interestRate (rates.append rate)).put .interestRateMovingAverage averages).rows
        .interestRate = before.rows .interestRate ++ [⟨rates.nextId, rate⟩] := by
    rw [Database.rows_congr (Database.put_other _ apart), Database.rows_put,
      Database.rows_of_table stands]
    rfl
  cases records with
  | @created rates averages rate row ratesStand averagesStand fresh logs comes =>
    refine agree_created agree (logged ratesStand rate _) (Database.rows_of_table averagesStand)
      (Database.rows_put _ _) ?_ logs comes
    intro average mem same
    have unselected := List.filter_eq_nil_iff.1 fresh average mem
    exact unselected (rateClause_holds.2 (same.trans named.symm))
  | @revised rates averages rate row first ratesStand averagesStand found logs comes =>
    have selected : first ∈ averages.select (rateClause sample.name) := List.mem_of_mem_head? found
    refine agree_revised agree (logged ratesStand rate _) (Database.rows_of_table averagesStand)
      (Database.rows_put _ _) (List.mem_of_mem_filter selected) ?_ logs comes
    rw [← named]
    exact rateClause_holds.1 (List.mem_filter.1 selected).2

/-! ## Requests -/

/-- The call takes rows of the log of rates out. -/
def Call.unlogs : Call → Bool
  | .delete .interestRate _ => true
  | _ => false

def Step.unlogs : Step → Bool
  | .call made => made.unlogs
  | _ => false

theorem RatesAgree.apply {settings : Settings} {request : Request}
    (logged : request.call.unlogs = false) (agree : RatesAgree database) :
    RatesAgree (request.apply settings database) := by
  obtain ⟨now, call⟩ := request
  by_cases outside : .interestRate ∉ call.writes ∧ .interestRateMovingAverage ∉ call.writes
  · have rates : (call.perform settings now database).database.rows .interestRate =
        database.rows .interestRate :=
      Database.rows_congr (Call.perform_other outside.1)
    have averages : (call.perform settings now database).database.rows .interestRateMovingAverage =
        database.rows .interestRateMovingAverage :=
      Database.rows_congr (Call.perform_other outside.2)
    refine agree.sublist rates ?_
    rw [Request.apply, averages]
  · cases call with
    | putInterestRate given =>
      rcases recordRate_cases settings now given database with kept | records
      · exact (congrArg RatesAgree kept).mpr agree
      · exact records.agree (upper_rateName _ _) agree
    | delete e criterion =>
      cases e with
      | interestRate => cases logged
      | interestRateMovingAverage =>
        refine agree.sublist ?_ (remove_sublist criterion database)
        exact Database.rows_congr (remove_other criterion database (by decide))
      | _ => exact absurd ⟨by simp [Call.writes], by simp [Call.writes]⟩ outside
    | putSample log draft =>
      cases log <;> exact absurd ⟨by simp [Call.writes], by simp [Call.writes]⟩ outside
    | putAccount account draft =>
      cases account <;> exact absurd ⟨by simp [Call.writes], by simp [Call.writes]⟩ outside
    | _ => exact absurd ⟨by simp [Call.writes], by simp [Call.writes]⟩ outside

/-! ## Reading pairs -/

/-- Where averages and log agree and there is an average, each average is read with a rate. -/
theorem RatesAgree.latestPairs (agree : RatesAgree database)
    (mem : average ∈ database.rows .interestRateMovingAverage) :
    ∃ pairs, latestPairs (.matcher .all) database = .ok pairs ∧
      pairs.map RatePair.average = database.rows .interestRateMovingAverage := by
  obtain ⟨averages, averagesStand⟩ := Database.table_of_mem mem
  obtain ⟨rate, rateMem, _⟩ := agree.logged average mem
  obtain ⟨rates, ratesStand⟩ := Database.table_of_mem rateMem
  have some_ : averages.rows.isEmpty = false := by
    rw [Database.rows_of_table averagesStand] at mem
    exact List.isEmpty_eq_false_iff_exists_mem.2 ⟨average, mem⟩
  unfold FarmLedger.latestPairs
  rw [Database.readAll averagesStand, Database.rows_of_table averagesStand,
    Database.table_eq ratesStand]
  simp only [Bind.bind, Except.bind, some_]
  apply mapM_ok
  intro average mem
  rw [← Database.rows_of_table averagesStand] at mem
  obtain ⟨rate, rateMem, ofPair⟩ := agree.logged average mem
  rw [Database.rows_of_table ratesStand] at rateMem
  obtain ⟨latest, newest⟩ := latestRate_isSome rates.ascending rateMem ofPair
  refine ⟨⟨average, latest⟩, ?_, rfl⟩
  simp only [newest]
  rfl

/-! ## Runs -/

theorem run_ratesAgree {ledger : Ledger} {steps : List Step}
    (fresh : ledger.database = Database.fresh)
    (allowed : ∀ step ∈ steps, step.isRequest = true)
    (logged : ∀ step ∈ steps, step.unlogs = false) :
    RatesAgree (ledger.run steps).1.database := by
  rw [Ledger.run_requests allowed]
  refine Request.applyAll_invariant (fresh ▸ RatesAgree.fresh) ?_
  intro request mem database agree
  refine RatesAgree.apply ?_ agree
  rcases Ledger.mem_requests mem with called | ⟨sample, put⟩ | ⟨sample, put⟩
  · exact logged _ called
  · rw [put]
    rfl
  · rw [put]
    rfl

/-- The row shows the end of the log of its name, and its pair is in the log. -/
structure Row.Follows (row : Row .interestRateMovingAverage) (database : Database) : Prop where
  samples : ∃ samples, (row .periodObservedRates : Option (List Float)) = some samples ∧
    samples ≠ [] ∧
    sameReals samples ((lendingLog database (row .rateName)).rtake samples.length) = true ∧
    (∀ sample ∈ samples, sample.isNaN = false) ∧
    IsAverage samples (row .periodRunningAverage)
  logged : ∃ rate ∈ database.rows .interestRate,
    (rate.row .platform : String) = row .platform ∧ (rate.row .asset : String) = row .asset

theorem Window.Ends.follows {row : Row .interestRateMovingAverage} {window : Window}
    (held : rateWindow row = .ok window)
    (ends : window.Ends (lendingLog database (row .rateName)))
    (logged : ∃ rate ∈ database.rows .interestRate,
      (rate.row .platform : String) = row .platform ∧ (rate.row .asset : String) = row .asset) :
    row.Follows database := by
  unfold rateWindow at held
  split at held
  · cases held
  · next samples stored =>
    cases held
    exact ⟨⟨samples, stored, ends.some_, ends.samples, numbers_of_sameReals ends.samples,
      ends.average⟩, logged⟩

/-- **Averages follow the log of rates.** However a run from empty tables went, as long as it took
no rates out of the log, every moving average shows the last rates that were logged under its name
and averages them; and all averages can be read, each with a rate of its pair. -/
theorem averages_follow_rates {ledger : Ledger} {steps : List Step}
    {average : Stored .interestRateMovingAverage}
    (fresh : ledger.database = Database.fresh)
    (allowed : ∀ step ∈ steps, step.isRequest = true)
    (logged : ∀ step ∈ steps, step.unlogs = false)
    (mem : average ∈ (ledger.run steps).1.database.rows .interestRateMovingAverage) :
    average.row.Follows (ledger.run steps).1.database ∧
      ∃ pairs, ((ledger.run steps).1.step (.call (.readPairs (.matcher .all)))).2.result =
          .ok (.pairs pairs) ∧
        pairs.map RatePair.average =
          (ledger.run steps).1.database.rows .interestRateMovingAverage := by
  have agree := run_ratesAgree fresh allowed logged
  obtain ⟨window, held, ends⟩ := agree.ends average mem
  obtain ⟨pairs, read, averages⟩ := agree.latestPairs mem
  refine ⟨ends.follows held (agree.logged average mem), pairs, ?_, averages⟩
  exact ask_map Answer.pairs read

/-- Rates of a pair at the start of the clock. -/
def rateOf (platform asset : String) (lendingRate : Float) : Step :=
  .call (.putInterestRate
    ⟨platform, asset, 0.5, 0.5, lendingRate, 8.0, 4.0, some emptyLedger.clock⟩)

/-- Rates of a pair in three spellings, the last of them after the end of the window. -/
def threeRates : List Step := [
  rateOf "tulip" "Ray" 0.25,
  rateOf "Tulip" "ray" 0.5,
  .setClock afterWindow,
  rateOf "TULIP" "RAY" 0.75]

/-- Three rates make an average that was begun anew, and it follows its log. -/
theorem threeRates_followed :
    ∃ average ∈ (emptyLedger.run threeRates).1.database.rows .interestRateMovingAverage,
      (lendingLog (emptyLedger.run threeRates).1.database "TULIP-RAY").length = 3 ∧
      average.row.Follows (emptyLedger.run threeRates).1.database ∧
      ∃ pairs, ((emptyLedger.run threeRates).1.step (.call (.readPairs (.matcher .all)))).2.result =
          .ok (.pairs pairs) ∧
        pairs.map RatePair.average =
          (emptyLedger.run threeRates).1.database.rows .interestRateMovingAverage := by
  have some_ : ∃ average ∈ (emptyLedger.run threeRates).1.database.rows .interestRateMovingAverage,
      (lendingLog (emptyLedger.run threeRates).1.database "TULIP-RAY").length = 3 := by
    decide +kernel
  obtain ⟨average, mem, three⟩ := some_
  exact ⟨average, mem, three, averages_follow_rates rfl
    (by simp [threeRates, rateOf, Step.isRequest])
    (by simp [threeRates, rateOf, Step.unlogs, Call.unlogs]) mem⟩

end FarmLedger
