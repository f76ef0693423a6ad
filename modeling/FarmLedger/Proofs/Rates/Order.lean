/-
# FarmLedger.Proofs.Rates.Order — the average of a pair forgets the order of its rates

While the window of a pair is open, its moving average takes the mean of all rates in it anew with
every further one. So two runs that put the same rates in different orders need not agree in
between, but they do at the end.

`Window.Gathers` is what carries this through a run: the window holds just the rates that came, as
they came, and their average. A row keeps what it is given by value only, and does not write what
equals the old value; but a list that grew is never taken for the old one, so that the rates in it
are exact. They are therefore the same rates in either run, and their mean has no order
(`mean_perm`).
-/
import FarmLedger.Proofs.Ledger.Undone
import FarmLedger.Proofs.Rates.Spelling

namespace FarmLedger

open FarmLedger.Number FarmLedger.Text FarmLedger.Time

/-! ## A window that stays open -/

namespace Window

variable {w kept given : Window} {now : Timestamp} {sample : Float} {length : Duration}
  {finish : Int} {rates : List Float} {update : Update}

/-- The window ends then, and holds these rates as they came, with their average. -/
structure Gathers (w : Window) (finish : Int) (rates : List Float) : Prop where
  finish : (w.finish.micros : Int) = finish
  samples : w.samples = rates
  some_ : rates ≠ []
  average : IsAverage rates w.average

theorem gathers_begin (begun : Window.begin now length (some sample) = .ok given)
    (keeps : kept.Keeps given) (exact_ : kept.samples = given.samples) :
    kept.Gathers (now.instant + length.micros) [sample] := by
  obtain ⟨start, finish, read, ends, rfl⟩ := begin_ok begun
  exact {
    finish := by
      rw [keeps.finish, micros_finishOf ends, Timestamp.instant_of_toUtc (ok_of_mapError read)]
    samples := exact_
    some_ := List.cons_ne_nil _ _
    average := keeps.average }

/-- A sample that comes before the end joins the ones before it. -/
theorem Gathers.joins (gathers : w.Gathers finish rates) (onTime : now.instant ≤ finish)
    (observed : (w.observeOrRollOver now sample length).result = .ok update) :
    ∃ m, mean (rates ++ [sample]) = .ok m ∧
      (w.observeOrRollOver now sample length).window =
        { w with
          samples := rates ++ [sample]
          average := if m == w.average then w.average else m } := by
  obtain ⟨moment, read, ⟨late, _⟩ | ⟨_, joined⟩⟩ := observeOrRollOver_ok observed
  · have after : w.finish.micros < moment.micros := late
    have ends := gathers.finish
    have comes := Timestamp.instant_of_toUtc (ok_of_mapError read)
    omega
  · rwa [gathers.samples] at joined

theorem Gathers.next (gathers : w.Gathers finish rates) (onTime : now.instant ≤ finish)
    (observed : (w.observeOrRollOver now sample length).result = .ok update)
    (keeps : kept.Keeps (w.observeOrRollOver now sample length).window)
    (exact_ : kept.samples = (w.observeOrRollOver now sample length).window.samples) :
    kept.Gathers finish (rates ++ [sample]) := by
  obtain ⟨m, taken, joined⟩ := gathers.joins onTime observed
  rw [joined] at keeps exact_
  have many : 1 < (rates ++ [sample]).length := by
    have some_ := List.length_pos_of_ne_nil gathers.some_
    rw [List.length_append, List.length_singleton]
    omega
  exact {
    finish := by rw [keeps.finish, gathers.finish]
    samples := exact_
    some_ := List.append_ne_nil_of_left_ne_nil gathers.some_ _
    average := isAverage_taken many taken keeps.average }

end Window

/-! ## A row that gathers rates -/

section Rows

variable {now : Timestamp} {length : Duration} {sample : RateSample} {window given : Window}
  {old row : Row .interestRateMovingAverage} {finish : Int} {rates : List Float}

def Row.GathersRates (row : Row .interestRateMovingAverage) (finish : Int) (rates : List Float) :
    Prop :=
  ∃ window, rateWindow row = .ok window ∧ window.Gathers finish rates

/-- A list of rates that grew is written as it is. -/
theorem rates_of_revision (held : rateWindow old = .ok window)
    (filled : ((averageRevision given).entries old).fill = .ok row)
    (grew : window.samples.length < given.samples.length) :
    (row .periodObservedRates : Option (List Float)) = some given.samples := by
  rcases Revision.same_or_written filled .periodObservedRates rfl with ⟨_, same⟩ | written
  · obtain ⟨stored, _, _⟩ := rateWindow_ok held
    rw [stored] at same
    have equal : window.samples.length = given.samples.length := sameReals_length same
    omega
  · exact (Option.some.inj written).symm

theorem gathersRates_of_draft
    (begun : Window.begin now length (some sample.lendingRate) = .ok window)
    (filled : (sample.averageDraft window).entries.fill = .ok row) :
    row.GathersRates (now.instant + length.micros) [sample.lendingRate] := by
  have written : (row .periodObservedRates : Option (List Float)) = some window.samples :=
    (Option.some.inj (Entries.value?_of_fill filled .periodObservedRates)).symm
  cases averages_of_draft begun filled with
  | created begun' _ keeps =>
    obtain rfl := Except.ok.inj (begun.symm.trans begun')
    obtain ⟨kept, held, keeps⟩ := keeps
    obtain ⟨stored, _, _⟩ := rateWindow_ok held
    exact ⟨kept, held,
      Window.gathers_begin begun keeps (Option.some.inj (stored.symm.trans written))⟩

theorem Row.GathersRates.revised {revision : Revision .interestRateMovingAverage}
    (gathers : old.GathersRates finish rates) (onTime : now.instant ≤ finish)
    (decided : (sample.revise now length old).result = .ok revision)
    (filled : (revision.entries old).fill = .ok row) :
    row.GathersRates finish (rates ++ [sample.lendingRate]) := by
  obtain ⟨window, held, gathers⟩ := gathers
  cases averages_of_revision decided filled with
  | revised held' observed _ keeps =>
    obtain rfl := Except.ok.inj (held.symm.trans held')
    obtain ⟨kept, stays, keeps⟩ := keeps
    obtain ⟨_, _, held'', _, rfl⟩ := revise_rate_ok decided
    obtain rfl := Except.ok.inj (held.symm.trans held'')
    obtain ⟨_, _, joined⟩ := gathers.joins onTime observed
    have grew : window.samples.length <
        (window.observeOrRollOver now sample.lendingRate length).window.samples.length := by
      rw [joined, gathers.samples, List.length_append]
      exact Nat.lt_succ_self _
    have written := rates_of_revision held filled grew
    obtain ⟨stored, _, _⟩ := rateWindow_ok stays
    exact ⟨kept, stays,
      gathers.next onTime observed keeps (Option.some.inj (stored.symm.trans written))⟩

end Rows

/-! ## A name that has one moving average -/

def Database.averagesNamed (database : Database) (name : String) :
    List (Stored .interestRateMovingAverage) :=
  (database.rows .interestRateMovingAverage).filter fun stored => stored.row .rateName == name

/-- There is one moving average of the name, and it gathers the rates. -/
def Database.Gathers (database : Database) (name : String) (finish : Int) (rates : List Float) :
    Prop :=
  ∃ averages stored, database .interestRateMovingAverage = some averages ∧
    averages.select (rateClause name) = [stored] ∧ stored.row.GathersRates finish rates

section Tables

variable {settings : Settings} {now : Timestamp} {sample : RateSample} {database : Database}
  {averages : Table .interestRateMovingAverage} {name : String} {finish : Int}
  {rates : List Float}

theorem Database.averagesNamed_eq (stands : database .interestRateMovingAverage = some averages)
    (fixed : upper name = name) :
    database.averagesNamed name = averages.select (rateClause name) := by
  unfold averagesNamed Table.select
  rw [rows_of_table stands]
  refine List.filter_congr fun stored _ => ?_
  rw [Bool.eq_iff_iff, rateClause_holds, fixed]
  exact beq_iff_eq

/-- The first rates of a name begin to gather. -/
theorem recordRate_gathers (none_ : database.averagesNamed sample.folded.name = [])
    (done : (recordRate settings now sample database).result = .ok ()) :
    (recordRate settings now sample database).database.Gathers sample.folded.name
      (now.instant + settings.windowLength.micros) [sample.lendingRate] := by
  obtain ⟨logged, rate, upserted, _, _, upserts⟩ := recordRate_ran done
  have kept : (database.put .interestRate (logged.append rate)) .interestRateMovingAverage =
      database .interestRateMovingAverage := Database.put_other _ (by decide)
  generalize (recordRate settings now sample database).database = after at upserts ⊢
  cases upserts with
  | @created averages draft row stands fresh drafted makes =>
    obtain ⟨window, begun, rfl⟩ := ok_of_map drafted
    have gathers : row.GathersRates (now.instant + settings.windowLength.micros)
        [sample.folded.lendingRate] := gathersRates_of_draft begun makes.filled
    exact ⟨averages.append row, _, Database.put_same _ _,
      Table.select_append fresh (rateClause_holds_draft makes.filled), gathers⟩
  | revised stands found _ _ =>
    have named : database.averagesNamed sample.folded.name = _ :=
      Database.averagesNamed_eq (kept.symm.trans stands) (upper_rateName _ _)
    rw [← named, none_] at found
    cases found

/-- Further rates are gathered as long as the window stays open. -/
theorem Database.Gathers.next (gathers : database.Gathers sample.folded.name finish rates)
    (onTime : now.instant ≤ finish)
    (done : (recordRate settings now sample database).result = .ok ()) :
    (recordRate settings now sample database).database.Gathers sample.folded.name finish
      (rates ++ [sample.lendingRate]) := by
  obtain ⟨averages, old, averagesStand, alone, gathers⟩ := gathers
  obtain ⟨logged, rate, upserted, _, _, upserts⟩ := recordRate_ran done
  have kept : (database.put .interestRate (logged.append rate)) .interestRateMovingAverage =
      some averages := (Database.put_other _ (by decide)).trans averagesStand
  generalize (recordRate settings now sample database).database = after at upserts ⊢
  cases upserts with
  | created stands fresh =>
    obtain rfl := Option.some.inj (kept.symm.trans stands)
    cases alone.symm.trans fresh
  | @revised _ stored revision row stands found decided makes =>
    obtain rfl := Option.some.inj (kept.symm.trans stands)
    obtain ⟨_, selected⟩ := List.mem_filter.1 (List.mem_of_mem_head? found)
    rw [alone] at found
    obtain rfl := Option.some.inj found
    have gathered : row.GathersRates finish (rates ++ [sample.folded.lendingRate]) :=
      gathers.revised onTime decided makes.filled
    obtain ⟨_, _, _, _, rfl⟩ := revise_rate_ok decided
    exact ⟨averages.replace old.id row, _, Database.put_same _ _,
      Table.select_replace_alone alone (rateClause_holds_revision selected makes.filled),
      gathered⟩

end Tables

/-! ## Rates that come one after the other -/

/-- Rates, and what the clock shows when they come. -/
structure RateArrival where
  now : Timestamp
  sample : RateSample

def stepsOf (arrivals : List RateArrival) : List Step :=
  arrivals.flatMap fun arrival => [.setClock arrival.now, .call (.putInterestRate arrival.sample)]

def lendingRates (arrivals : List RateArrival) : List Float :=
  arrivals.map fun arrival => arrival.sample.lendingRate

/-- None comes after the end of the window that the first one begins. -/
def InOneWindow (length : Duration) : List RateArrival → Prop
  | [] => True
  | first :: rest => ∀ arrival ∈ rest, arrival.now.instant ≤ first.now.instant + length.micros

def Ledger.TakesAll (ledger : Ledger) (steps : List Step) : Prop :=
  ∀ reply ∈ (ledger.run steps).2, reply.isDone = true

def Ledger.afterRates (ledger : Ledger) (arrival : RateArrival) : Ledger :=
  ((ledger.step (.setClock arrival.now)).1.step (.call (.putInterestRate arrival.sample))).1

section Runs

variable {ledger : Ledger} {arrival : RateArrival} {arrivals : List RateArrival} {name : String}
  {finish : Int} {rates : List Float}

theorem run_arrivals_cons :
    (ledger.run (stepsOf (arrival :: arrivals))).1 =
      ((ledger.afterRates arrival).run (stepsOf arrivals)).1 :=
  rfl

theorem takesAll_arrivals_cons (taken : ledger.TakesAll (stepsOf (arrival :: arrivals))) :
    (recordRate ledger.settings arrival.now arrival.sample ledger.database).result = .ok () ∧
      (ledger.afterRates arrival).TakesAll (stepsOf arrivals) := by
  refine ⟨?_, fun reply mem => taken reply (List.mem_cons_of_mem _ (List.mem_cons_of_mem _ mem))⟩
  have done : Reply.isDone _ = true :=
    taken _ (List.mem_cons_of_mem _ List.mem_cons_self)
  cases recorded : (recordRate ledger.settings arrival.now arrival.sample ledger.database).result
    with
  | ok _ => rfl
  | error failure =>
    have failed : ((recordRate ledger.settings arrival.now arrival.sample
        ledger.database).result.map fun _ => Answer.done).isOk = true := done
    rw [recorded] at failed
    cases failed

/-- Rates that keep coming while the window is open are gathered. -/
theorem Database.Gathers.run (gathers : ledger.database.Gathers name finish rates)
    (named : ∀ arrival ∈ arrivals, arrival.sample.folded.name = name)
    (onTime : ∀ arrival ∈ arrivals, arrival.now.instant ≤ finish)
    (taken : ledger.TakesAll (stepsOf arrivals)) :
    (ledger.run (stepsOf arrivals)).1.database.Gathers name finish
      (rates ++ lendingRates arrivals) := by
  induction arrivals generalizing ledger rates with
  | nil => rwa [lendingRates, List.map_nil, List.append_nil]
  | cons arrival rest ih =>
    obtain ⟨recorded, taken⟩ := takesAll_arrivals_cons taken
    obtain ⟨ofName, named⟩ := List.forall_mem_cons.1 named
    obtain ⟨inTime, onTime⟩ := List.forall_mem_cons.1 onTime
    subst ofName
    have next := gathers.next inTime recorded
    rw [run_arrivals_cons, show lendingRates (arrival :: rest) =
      [arrival.sample.lendingRate] ++ lendingRates rest from rfl, ← List.append_assoc]
    exact ih next named onTime taken

/-- **Rates of one window are gathered from the first to the last.** -/
theorem run_gathers (none_ : ledger.database.averagesNamed name = [])
    (named : ∀ item ∈ arrival :: arrivals, item.sample.folded.name = name)
    (inWindow : InOneWindow ledger.settings.windowLength (arrival :: arrivals))
    (taken : ledger.TakesAll (stepsOf (arrival :: arrivals))) :
    (ledger.run (stepsOf (arrival :: arrivals))).1.database.Gathers name
      (arrival.now.instant + ledger.settings.windowLength.micros)
      (lendingRates (arrival :: arrivals)) := by
  obtain ⟨recorded, taken⟩ := takesAll_arrivals_cons taken
  obtain ⟨ofName, named⟩ := List.forall_mem_cons.1 named
  subst ofName
  have first : (ledger.afterRates arrival).database.Gathers arrival.sample.folded.name _ _ :=
    recordRate_gathers none_ recorded
  exact first.run named inWindow taken

end Runs

/-! ## The result -/

/-- The rows hold these rates, which are the same up to their order, and average them equally. -/
structure Row.SameRates (first second : Row .interestRateMovingAverage)
    (rates rates' : List Float) : Prop where
  holds : (first .periodObservedRates : Option (List Float)) = some rates
  holdsOther : (second .periodObservedRates : Option (List Float)) = some rates'
  orders : rates.Perm rates'
  isAverage : IsAverage rates (first .periodRunningAverage)
  average : ((first .periodRunningAverage : Float) == second .periodRunningAverage) = true

theorem Row.GathersRates.sameRates {first second : Row .interestRateMovingAverage}
    {finish finish' : Int} {rates rates' : List Float} (gathers : first.GathersRates finish rates)
    (others : second.GathersRates finish' rates') (orders : rates.Perm rates') :
    first.SameRates second rates rates' := by
  obtain ⟨window, held, gathers⟩ := gathers
  obtain ⟨window', held', others⟩ := others
  obtain ⟨stored, _, _⟩ := rateWindow_ok held
  obtain ⟨stored', _, _⟩ := rateWindow_ok held'
  have average := rateWindow_average held
  exact {
    holds := by rw [stored, gathers.samples]
    holdsOther := by rw [stored', others.samples]
    orders
    isAverage := average ▸ gathers.average
    average := by
      rw [average, rateWindow_average held']
      exact gathers.average.beq_of_perm others.average orders }

def Ledger.averagesOf (ledger : Ledger) (platform asset : String) :
    List (Stored .interestRateMovingAverage) :=
  ledger.database.averagesNamed (rateName platform asset)

theorem Ledger.averagesOf_gathers {ledger : Ledger} {platform asset : String} {finish : Int}
    {rates : List Float}
    (gathers : ledger.database.Gathers (rateName platform asset) finish rates) :
    ∃ stored, ledger.averagesOf platform asset = [stored] ∧
      stored.row.GathersRates finish rates := by
  obtain ⟨averages, stored, stands, alone, gathers⟩ := gathers
  exact ⟨stored, (Database.averagesNamed_eq stands (upper_rateName _ _)).trans alone, gathers⟩

/-- **The running average of a pair does not depend on the order of its rates.** Where a pair has no
moving average yet, put the same rates in two orders, each at times within one window, and let all
of them go through: the pair then has one moving average either way, with the rates in it as they
came and equal averages. What else the samples say, and when they come, need not be the same. -/
theorem average_of_any_order {ledger : Ledger} {platform asset : String}
    {one other : List RateArrival} (none_ : ledger.averagesOf platform asset = [])
    (named : ∀ arrival ∈ one ++ other,
      rateName arrival.sample.platform arrival.sample.asset = rateName platform asset)
    (orders : (lendingRates one).Perm (lendingRates other))
    (inWindow : InOneWindow ledger.settings.windowLength one)
    (inWindow' : InOneWindow ledger.settings.windowLength other)
    (taken : ledger.TakesAll (stepsOf one)) (taken' : ledger.TakesAll (stepsOf other)) :
    (one = [] ∧ other = []) ∨
    ∃ first second, (ledger.run (stepsOf one)).1.averagesOf platform asset = [first] ∧
      (ledger.run (stepsOf other)).1.averagesOf platform asset = [second] ∧
      first.row.SameRates second.row (lendingRates one) (lendingRates other) := by
  have ofPair : ∀ arrival ∈ one ++ other,
      arrival.sample.folded.name = rateName platform asset := fun arrival mem =>
    (rateName_upper _ _).trans (named arrival mem)
  obtain ⟨ofOne, ofOther⟩ := List.forall_mem_append.1 ofPair
  have lengths : one.length = other.length := by
    simpa [lendingRates] using orders.length_eq
  cases one with
  | nil => exact .inl ⟨rfl, (List.length_eq_zero_iff.1 lengths.symm)⟩
  | cons arrival rest =>
    cases other with
    | nil => cases lengths
    | cons arrival' rest' =>
      obtain ⟨first, found, gathers⟩ :=
        Ledger.averagesOf_gathers (run_gathers none_ ofOne inWindow taken)
      obtain ⟨second, found', gathers'⟩ :=
        Ledger.averagesOf_gathers (run_gathers none_ ofOther inWindow' taken')
      exact .inr ⟨first, second, found, found', gathers.sameRates gathers' orders⟩

/-- Three rates of a pair. Added up one by one they would make another sum than from the last. -/
def tenths : List RateArrival :=
  [⟨emptyLedger.clock, pairRates "ray" "usdc" 0.1⟩, ⟨emptyLedger.clock, pairRates "Ray" "usdc" 0.2⟩,
    ⟨emptyLedger.clock, pairRates "RAY" "USDC" 0.3⟩]

theorem tenths_either_way :
    ((0.1 + 0.2) + 0.3 == ((0.3 + 0.2) + 0.1 : Float)) = false ∧
      ∃ first second,
        (emptyLedger.run (stepsOf tenths)).1.averagesOf "ray" "usdc" = [first] ∧
        (emptyLedger.run (stepsOf tenths.reverse)).1.averagesOf "ray" "usdc" = [second] ∧
        first.row.SameRates second.row [0.1, 0.2, 0.3] [0.3, 0.2, 0.1] := by
  have named : ∀ arrival ∈ tenths ++ tenths.reverse,
      rateName arrival.sample.platform arrival.sample.asset = rateName "ray" "usdc" := by
    decide +kernel
  have onTime : ∀ arrival ∈ tenths.tail, arrival.now.instant ≤
      emptyLedger.clock.instant + emptyLedger.settings.windowLength.micros := by
    decide +kernel
  have onTime' : ∀ arrival ∈ tenths.reverse.tail, arrival.now.instant ≤
      emptyLedger.clock.instant + emptyLedger.settings.windowLength.micros := by
    decide +kernel
  have taken : (emptyLedger.run (stepsOf tenths)).2.all Reply.isDone = true := by
    decide +kernel
  have taken' : (emptyLedger.run (stepsOf tenths.reverse)).2.all Reply.isDone = true := by
    decide +kernel
  refine ⟨by decide +kernel, ?_⟩
  rcases @average_of_any_order emptyLedger "ray" "usdc" tenths tenths.reverse rfl named
    ((List.reverse_perm tenths).symm.map _) onTime onTime' (List.all_eq_true.1 taken)
    (List.all_eq_true.1 taken') with ⟨none_, _⟩ | averages
  · cases none_
  · exact averages

end FarmLedger
