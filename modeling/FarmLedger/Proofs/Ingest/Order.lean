/-
# FarmLedger.Proofs.Ingest.Order — samples may arrive in any order

Rates of different names do not find each other's average, and prices do not find each other's row
if their identifiers differ, or if both have no venue and are of different assets. Either kind is
put by a `Recorder`, and so neither cares in which order independent samples arrive.

A price without a venue is found by its columns and one from a venue by its identifier. The two
lookups can be compared because the identifier of a row is that of its platform and asset
(`Row.Identified`), which every run keeps.
-/
import FarmLedger.Proofs.Ingest.Plans
import FarmLedger.Proofs.Prices.Venue
import FarmLedger.Proofs.Rates.Pair

namespace FarmLedger

open FarmLedger.Number FarmLedger.Text FarmLedger.Time

variable {settings : Settings} {now : Timestamp} {database : Database}

/-! ## Rates -/

/-- The rates are averaged under different names. -/
def RateSample.Apart (sample other : RateSample) : Prop :=
  rateName sample.platform sample.asset ≠ rateName other.platform other.asset

instance (sample other : RateSample) : Decidable (sample.Apart other) :=
  inferInstanceAs (Decidable (_ ≠ _))

theorem name_folded (sample : RateSample) :
    sample.folded.name = rateName sample.platform sample.asset :=
  rateName_upper _ _

/-- An average is found by the sample that has its name. -/
theorem rateClause_folded {sample : RateSample} {row : Row .interestRateMovingAverage} :
    (rateClause sample.folded.name).holds row = true ↔
      (row .rateName : String) = rateName sample.platform sample.asset := by
  rw [rateClause_holds, name_folded, upper_rateName]

/-- Moving averages are put by name. -/
def ratePuts (settings : Settings) :
    KeyedPuts .interestRateMovingAverage (Timed RateSample) where
  clause timed := rateClause timed.sample.folded.name
  create timed :=
    (Window.begin timed.now settings.windowLength (some timed.sample.lendingRate)).map
      timed.sample.folded.averageDraft
  revise timed := timed.sample.folded.revise timed.now settings.windowLength
  key timed := .name timed.sample.folded.name
  Fine _ := True
  Apart timed other := timed.sample.Apart other.sample
  keyed timed := keyed_rate timed.sample timed.now settings.windowLength
  fine _ _ := trivial
  keepsFine _ _ := trivial
  reads {timed row old} keeps := by
    have name : row .rateName = old .rateName :=
      keeps _ List.mem_cons_self .rateName List.mem_cons_self
    rw [Bool.eq_iff_iff, rateClause_folded, rateClause_folded, name]
  apart {timed other row} apart _ own := by
    rw [Bool.eq_false_iff, Ne, rateClause_folded]
    exact fun shared => apart ((rateClause_folded.1 own).symm.trans shared)
  symm apart := Ne.symm apart

/-- Recording rates adds to the log and puts the average. -/
def RateSample.deeds (sample : RateSample) (average : Deed .interestRateMovingAverage) :
    Option Deeds :=
  sample.folded.draft.entries.row?.map fun rate => fun
    | .interestRate => some (.add rate)
    | .interestRateMovingAverage => some average
    | _ => none

/-- What can be put in the two tables of rates, is. -/
theorem recordRate_goes {sample : RateSample} {rates : Table .interestRate}
    {averages : Table .interestRateMovingAverage} {rate : Row .interestRate}
    {average : Deed .interestRateMovingAverage}
    (ratesStand : database .interestRate = some rates)
    (averagesStand : database .interestRateMovingAverage = some averages)
    (onePerKey : OnePerKey averages.rows)
    (made : sample.folded.draft.entries.row? = some rate)
    (plan : (ratePuts settings).plan ⟨now, sample⟩ averages = some average) :
    (recordRate settings now sample database).result = .ok () := by
  -- The log has no keys, so a row of it may stand beside any others.
  have keys : rate.checkKeys (rates.rows.map Stored.row) = .ok () :=
    Row.checkKeys_iff.2 fun _ _ _ ours => nomatch ours
  have inserted := Database.insert_iff.2
    ⟨rates, rate, ratesStand, Entries.makes_iff.2 ⟨made, keys⟩, rfl, rfl⟩
  have stands : (database.put .interestRate (rates.append rate)) .interestRateMovingAverage =
      some averages :=
    (Database.put_other _ (by decide)).trans averagesStand
  obtain ⟨upserted, upserts⟩ := ((ratePuts settings).keyed ⟨now, sample⟩).upserts onePerKey stands
    (planned_eq_some_iff.1 plan)
  have compiled : (Criterion.matcher (rateMatcher sample.folded.name)).compile
      .interestRateMovingAverage = .ok (rateClause sample.folded.name) :=
    compile_rateMatcher _
  obtain ⟨after, ran, _⟩ :=
    @Transaction.upsert_ran _ ⟨database.put .interestRate (rates.append rate), []⟩ _ _ _ _ _ _
      compiled rfl upserts
  have whole : (putInterestRate settings now sample).Ran ⟨database, []⟩ () after :=
    Transaction.bind_ran (Transaction.insert_ran inserted)
      (Transaction.bind_ran ran (Transaction.pure_ran _ _))
  unfold recordRate
  rw [transact_ran whole]

/-- **Recording rates carries out its plan.** -/
theorem recordRate_carries {sample : RateSample}
    (stands : ∀ other, ∃ table, database other = some table)
    (onePerKey : OnePerKey (database.rows .interestRateMovingAverage)) :
    Carries database (recordRate settings now sample database)
      (((database .interestRateMovingAverage).bind ((ratePuts settings).plan ⟨now, sample⟩)).bind
        sample.deeds) := by
  obtain ⟨averages, averagesStand⟩ := stands .interestRateMovingAverage
  rw [Database.rows_of_table averagesStand] at onePerKey
  rw [averagesStand, Option.bind_some]
  refine .of_ok (fun _ => transact_error) (fun deeds same => ?_) fun done => ?_
  · obtain ⟨average, plan, same⟩ := Option.bind_eq_some_iff.1 same
    obtain ⟨rate, made, _⟩ := Option.map_eq_some_iff.1 same
    obtain ⟨rates, ratesStand⟩ := stands .interestRate
    exact recordRate_goes ratesStand averagesStand onePerKey made plan
  · obtain ⟨rates, rate, upserted, ratesStand, makes, upserts⟩ := recordRate_ran done
    obtain ⟨average, planned, after⟩ :=
      upserts.planned ((Database.put_other _ (by decide)).trans averagesStand)
    refine ⟨_, Option.bind_eq_some_iff.2 ⟨average, planned_eq_some_iff.2 planned,
      Option.map_eq_some_iff.2 ⟨rate, (Entries.makes_iff.1 makes).1, rfl⟩⟩, ?_⟩
    intro e table stands
    rw [after]
    cases e with
    | interestRate =>
      obtain rfl := Option.some.inj (stands.symm.trans ratesStand)
      exact (Database.put_other _ (by decide)).trans (Database.put_same _ _)
    | interestRateMovingAverage =>
      obtain rfl := Option.some.inj (stands.symm.trans averagesStand)
      exact Database.put_same _ _
    | _ =>
      exact (Database.put_other _ (by decide)).trans
        ((Database.put_other _ (by decide)).trans stands)

def rateRecorder (settings : Settings) :
    Recorder .interestRateMovingAverage (Timed RateSample) where
  puts := ratePuts settings
  request := Timed.putRate
  settings := settings
  record timed := recordRate settings timed.now timed.sample
  deeds timed := timed.sample.deeds
  perform _ _ := rfl
  own same := by
    obtain ⟨_, _, rfl⟩ := Option.map_eq_some_iff.1 same
    rfl
  beside {_ _ _ other _} same different listed := by
    obtain ⟨rate, _, rfl⟩ := Option.map_eq_some_iff.1 same
    cases other with
    | interestRate => exact ⟨rate, (Option.some.inj listed).symm⟩
    | interestRateMovingAverage => exact absurd rfl different
    | _ => cases listed
  carries := recordRate_carries

/-! ## Prices -/

/-- The prices are of different identifiers, or of different assets without a venue. -/
def PriceSample.Apart (sample other : PriceSample) : Prop :=
  priceIdentifier sample.platform sample.asset ≠ priceIdentifier other.platform other.asset ∨
    sample.platform = Schema.noVenue ∧ other.platform = Schema.noVenue ∧
      sample.asset ≠ other.asset

instance (sample other : PriceSample) : Decidable (sample.Apart other) :=
  inferInstanceAs (Decidable (_ ∨ _))

theorem PriceSample.Apart.symm {sample other : PriceSample} (apart : sample.Apart other) :
    other.Apart sample :=
  apart.imp Ne.symm fun ⟨own, others, different⟩ => ⟨others, own, different.symm⟩

/-- Whatever a price is found by, its row has the identifier. -/
theorem Row.Identified.shared {row : Row .tokenPrice} {platform asset : String}
    (identified : row.Identified) (own : (priceClause platform asset).holds row = true) :
    (row .assetIdentifier : String) = priceIdentifier platform asset := by
  have matched := priceClause_holds.1 own
  by_cases venue : platform = Schema.noVenue
  · rw [if_pos venue] at matched
    rw [identified, matched.1, matched.2]
  · rw [if_neg venue] at matched
    exact matched

theorem priceClause_apart {sample other : PriceSample} {row : Row .tokenPrice}
    (apart : sample.Apart other) (identified : row.Identified)
    (own : (priceClause sample.platform sample.asset).holds row = true) :
    (priceClause other.platform other.asset).holds row = false := by
  rw [Bool.eq_false_iff]
  intro shared
  rcases apart with identifiers | ⟨venue, otherVenue, assets⟩
  · exact identifiers ((identified.shared own).symm.trans (identified.shared shared))
  · have ours := priceClause_holds.1 own
    have theirs := priceClause_holds.1 shared
    rw [if_pos venue] at ours
    rw [if_pos otherVenue] at theirs
    exact assets (ours.1.symm.trans theirs.1)

theorem Row.KeepsKeys.names {row old : Row .tokenPrice} (keeps : row.KeepsKeys old) :
    row.Names (old .asset) (old .platform) (old .assetIdentifier) := by
  have listed := keeps _ (List.mem_cons_of_mem _ List.mem_cons_self)
  exact ⟨listed .asset List.mem_cons_self,
    listed .platform (List.mem_cons_of_mem _ List.mem_cons_self),
    keeps _ List.mem_cons_self .assetIdentifier List.mem_cons_self⟩

/-- Prices are put by identifier, or by asset and platform if they have no venue. -/
def pricePuts (guard : Guard) (settings : Settings) :
    KeyedPuts .tokenPrice (Timed PriceSample) where
  clause timed := priceClause timed.sample.platform timed.sample.asset
  create timed :=
    (Window.begin timed.now settings.windowLength (some timed.sample.price)).map timed.sample.draft
  revise timed := timed.sample.revise guard timed.now settings.windowLength
  key timed := priceKey timed.sample.platform timed.sample.asset
  Fine := Row.Identified
  Apart timed other := timed.sample.Apart other.sample
  keyed timed := keyed_price timed.sample guard timed.now settings.windowLength
  fine {timed draft row} drafted filled := by
    obtain ⟨window, _, rfl⟩ := ok_of_map drafted
    have holds := Draft.holds filled
    rw [Row.Identified, (holds .assetIdentifier).text, (holds .platform).text,
      (holds .asset).text]
  keepsFine keeps identified := by
    have names := keeps.names
    rw [Row.Identified, names.identifier, names.platform, names.asset]
    exact identified
  reads keeps := by
    have names := keeps.names
    rw [Bool.eq_iff_iff, priceClause_holds, priceClause_holds, names.identifier, names.platform,
      names.asset]
  apart := priceClause_apart
  symm := PriceSample.Apart.symm

/-- Recording a price puts its row, if there is a limit to judge by. -/
def PriceSample.deeds (settings : Settings) (_ : PriceSample) (price : Deed .tokenPrice) :
    Option Deeds :=
  (Guard.ofSetting settings.limit).toOption.map fun _ => fun
    | .tokenPrice => some price
    | _ => none

/-- The guard of the settings, or any other one if they have none. -/
def Settings.guard (settings : Settings) : Guard :=
  (Guard.ofSetting settings.limit).toOption.getD ⟨defaultLimit⟩

theorem Settings.guard_eq {guard : Guard} (limited : Guard.ofSetting settings.limit = .ok guard) :
    settings.guard = guard := by
  unfold Settings.guard
  rw [limited]
  rfl

/-- What can be put in the table of prices, is. -/
theorem recordPrice_goes {sample : PriceSample} {guard : Guard} {prices : Table .tokenPrice}
    {price : Deed .tokenPrice} (limited : Guard.ofSetting settings.limit = .ok guard)
    (stands : database .tokenPrice = some prices) (onePerKey : OnePerKey prices.rows)
    (plan : (pricePuts guard settings).plan ⟨now, sample⟩ prices = some price) :
    (recordPrice settings now sample database).result = .ok () := by
  obtain ⟨upserted, upserts⟩ := ((pricePuts guard settings).keyed ⟨now, sample⟩).upserts onePerKey
    stands (planned_eq_some_iff.1 plan)
  have compiled : (Criterion.matcher (priceMatcher sample.platform sample.asset)).compile
      .tokenPrice = .ok (priceClause sample.platform sample.asset) :=
    compile_priceMatcher _ _
  obtain ⟨after, ran, _⟩ := @Transaction.upsert_ran _ ⟨database, []⟩ _ _ _ _ _ _ compiled
    (check_priceClause _ _) upserts
  rw [recordPrice_eq_route]
  unfold routePrice
  rw [limited]
  exact congrArg (fun routed : Outcome Upserted => routed.result.map fun _ => ())
    (transact_ran ran)

/-- **Recording a price carries out its plan.** -/
theorem recordPrice_carries {sample : PriceSample}
    (stands : ∀ other, ∃ table, database other = some table)
    (onePerKey : OnePerKey (database.rows .tokenPrice)) :
    Carries database (recordPrice settings now sample database)
      (((database .tokenPrice).bind
          ((pricePuts settings.guard settings).plan ⟨now, sample⟩)).bind
        (sample.deeds settings)) := by
  obtain ⟨prices, pricesStand⟩ := stands .tokenPrice
  rw [Database.rows_of_table pricesStand] at onePerKey
  rw [pricesStand, Option.bind_some]
  refine .of_ok (fun _ => attempt_error) (fun deeds same => ?_) fun done => ?_
  · obtain ⟨price, plan, same⟩ := Option.bind_eq_some_iff.1 same
    obtain ⟨guard, limited, _⟩ := Option.map_eq_some_iff.1 same
    have limited := toOption_eq_some.1 limited
    rw [Settings.guard_eq limited] at plan
    exact recordPrice_goes limited pricesStand onePerKey plan
  · rw [recordPrice_eq_route] at done
    obtain ⟨upserted, routed, _⟩ := ok_of_map done
    obtain ⟨guard, limited, upserts⟩ := routePrice_upserts routed
    obtain ⟨price, planned, after⟩ := upserts.planned pricesStand
    rw [Settings.guard_eq limited]
    refine ⟨_, Option.bind_eq_some_iff.2 ⟨price, planned_eq_some_iff.2 planned,
      Option.map_eq_some_iff.2 ⟨guard, toOption_eq_some.2 limited, rfl⟩⟩, ?_⟩
    intro e table stands
    rw [after]
    cases e with
    | tokenPrice =>
      obtain rfl := Option.some.inj (stands.symm.trans pricesStand)
      exact Database.put_same _ _
    | _ => exact (Database.put_other _ (by decide)).trans stands

def priceRecorder (settings : Settings) : Recorder .tokenPrice (Timed PriceSample) where
  puts := pricePuts settings.guard settings
  request := Timed.putPrice
  settings := settings
  record timed := recordPrice settings timed.now timed.sample
  deeds timed := timed.sample.deeds settings
  perform _ _ := rfl
  own same := by
    obtain ⟨_, _, rfl⟩ := Option.map_eq_some_iff.1 same
    rfl
  beside {_ _ _ other _} same different listed := by
    obtain ⟨_, _, rfl⟩ := Option.map_eq_some_iff.1 same
    cases other with
    | tokenPrice => exact absurd rfl different
    | _ => cases listed
  carries := recordPrice_carries

/-! ## Two orders -/

/-- The samples of all targets that gave one. -/
def samplesOf {α : Type} (arrived : List (Sampled (Timed α))) : List α :=
  (arrived.filterMap Sampled.sample).map Timed.sample

/-- **Independent samples may arrive in any order.** After any run from empty tables, two ingests
of the same samples in different orders leave the same tables, up to the order and the ids of the
rows that are new, and report the same. Rates are independent if they have different names, and
prices if they have different identifiers, or different assets and no venue. In either order each
sample is written at its own time. -/
theorem ingest_order {ledger : Ledger} {steps : List Step}
    (fresh : ledger.database = Database.fresh) (allowed : ∀ step ∈ steps, step.isRequest = true)
    (workers : Option Int) :
    let reached := (ledger.run steps).1
    (∀ first second : List (Sampled (Timed RateSample)), first.Perm second →
        (samplesOf first).Pairwise RateSample.Apart →
        reached.StepsAlike workers (.ingestRates workers first) (.ingestRates workers second)) ∧
      ∀ first second : List (Sampled (Timed PriceSample)), first.Perm second →
        (samplesOf first).Pairwise PriceSample.Apart →
        reached.StepsAlike workers (.ingestPrices workers first)
          (.ingestPrices workers second) := by
  intro reached
  have none_ (e : Entity) : ledger.database.rows e = [] := by
    rw [fresh, Database.rows_fresh]
  constructor
  · intro first second perm apart
    have good : (rateRecorder reached.settings).Good reached.database :=
      ⟨run_stands fresh allowed, run_sound allowed (none_ _), fun _ _ => trivial⟩
    have apart : (first.filterMap Sampled.sample).Pairwise fun timed other =>
        timed.sample.Apart other.sample := List.pairwise_map.1 apart
    exact good.stepsAlike (fun _ => ⟨rfl, rfl⟩) perm apart
  · intro first second perm apart
    have good : (priceRecorder reached.settings).Good reached.database :=
      ⟨run_stands fresh allowed, run_sound allowed (none_ _), run_price_identified fresh allowed⟩
    have apart : (first.filterMap Sampled.sample).Pairwise fun timed other =>
        timed.sample.Apart other.sample := List.pairwise_map.1 apart
    exact good.stepsAlike (fun _ => ⟨rfl, rfl⟩) perm apart

/-- A run that leaves a price and an average. -/
def startedSteps : List Step :=
  [.call (.putTokenPrice (quote "tulip" "USDC" 4.0)), .ingestRates none mixedRates]

theorem mixed_ingest_order :
    emptyLedger.database = Database.fresh ∧ (∀ step ∈ startedSteps, step.isRequest = true) ∧
      mixedRates.Perm mixedRates.reverse ∧
      (samplesOf mixedRates).Pairwise RateSample.Apart ∧
      (emptyLedger.run startedSteps).1.StepsAlike none (.ingestRates none mixedRates)
        (.ingestRates none mixedRates.reverse) ∧
      mixedPrices.Perm mixedPrices.reverse ∧
      (samplesOf mixedPrices).Pairwise PriceSample.Apart ∧
      (emptyLedger.run startedSteps).1.StepsAlike none (.ingestPrices none mixedPrices)
        (.ingestPrices none mixedPrices.reverse) :=
  have allowed : ∀ step ∈ startedSteps, step.isRequest = true := by
    simp [startedSteps, Step.isRequest]
  have alike := ingest_order rfl allowed none
  have rates : mixedRates.Perm mixedRates.reverse := mixedRates.reverse_perm.symm
  have prices : mixedPrices.Perm mixedPrices.reverse := mixedPrices.reverse_perm.symm
  have ratesApart : (samplesOf mixedRates).Pairwise RateSample.Apart := by
    decide +kernel
  have pricesApart : (samplesOf mixedPrices).Pairwise PriceSample.Apart := by
    decide +kernel
  ⟨rfl, allowed, rates, ratesApart, alike.1 _ _ rates ratesApart, prices, pricesApart,
    alike.2 _ _ prices pricesApart⟩

end FarmLedger
