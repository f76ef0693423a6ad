/-
# FarmLedger.Proofs.Prices.Standing — a price that comes again

The guard compares a price with the last sample of the row that it goes to. If it is that very
sample, it is not away from it, and one would not expect the guard to mind. Nor does it, as long as
the sample is finite. An infinite price is a sample like any other, but its distance from itself is
no number (`deviation_special`), and what is no number is not below the limit; the guard rejects
it, and every other price after it, so that the feed of the row stays stopped.

`judge_standing` is the verdict. What a row may hold is known for all rows of a run: numbers
(`run_prices_inNumbers`), in a window that does not end before it starts. So there is nothing else
that could refuse an accepted price than figures that are no numbers, and a window that has no mean
with it or no end after it (`PriceSample.Fits`, `recordPrice_accepted_iff`). `standing_price` puts
both together.
-/
import FarmLedger.Proofs.Number.Distance
import FarmLedger.Proofs.Prices.History
import FarmLedger.Proofs.Prices.Outlier
import FarmLedger.Proofs.Prices.ReadBack
import FarmLedger.Proofs.Prices.Recorded
import FarmLedger.Proofs.Prices.Venue
import FarmLedger.Proofs.Window.Numbers

namespace FarmLedger

open FarmLedger.Number FarmLedger.Time

/-! ## The verdict -/

section Verdict

variable {guard : Guard} {last price : Float}

/-- After what is not finite the guard accepts nothing. -/
theorem judge_special (special : last.isFinite = false) (candidate : Float) :
    (guard.judge (some last) candidate).accepted = false :=
  decide_eq_false (not_le_of_isNaN (deviation_special special))

/-- **The guard accepts a price that comes again just if it is finite.** -/
theorem judge_standing (positive : 0.0 < guard.limit) (again : (price == last) = true) :
    (guard.judge (some last) price).accepted = last.isFinite := by
  cases finite : last.isFinite with
  | true => exact decide_eq_true (zero_le_of_positive (deviation_standing finite again) positive)
  | false => exact judge_special finite price

end Verdict

/-! ## Rows of numbers -/

theorem run_prices_inNumbers {ledger : Ledger} {steps : List Step}
    (fresh : ledger.database = Database.fresh)
    (allowed : ∀ step ∈ steps, step.isRequest = true) :
    ∀ stored ∈ (ledger.run steps).1.database.rows .tokenPrice,
      ∃ window, priceWindow stored.row = .ok window ∧ window.InNumbers := by
  refine run_price_rows (P := fun row => ∃ window, priceWindow row = .ok window ∧ window.InNumbers)
    fresh allowed ?_
  intro guard now sample old row limited before quotes
  cases quotes with
  | created begun names shows keeps =>
    obtain ⟨kept, held, keeps⟩ := keeps
    obtain ⟨_, _, _, _, rfl⟩ := Window.begin_ok begun
    exact ⟨kept, held, keeps.inNumbers (List.forall_mem_singleton.2 shows.number)⟩
  | accepted held judged observed names shows keeps =>
    obtain ⟨window, held', numbers⟩ := before _ rfl
    obtain rfl := Except.ok.inj (held'.symm.trans held)
    obtain ⟨kept, stays, keeps⟩ := keeps
    exact ⟨kept, stays, keeps.inNumbers (numbers.next shows.number observed)⟩
  | rejected held judged names shows keeps =>
    obtain ⟨window, held', numbers⟩ := before _ rfl
    obtain rfl := Except.ok.inj (held'.symm.trans held)
    exact ⟨window, keeps, numbers⟩

theorem ordered_of_priceWindow {row : Row .tokenPrice} {window : Window}
    (held : priceWindow row = .ok window) (conditions : row.checkConditions = .ok ()) :
    window.start ≤ window.finish := by
  unfold priceWindow at held
  split at held
  · cases held
  · cases held
    exact checkConditions_tokenPrice.1 conditions

/-- Windows of a run do not go backwards, once there is one. -/
theorem run_prices_forward {ledger : Ledger} {steps : List Step} {stored : Stored .tokenPrice}
    {window : Window} (fresh : ledger.database = Database.fresh)
    (allowed : ∀ step ∈ steps, step.isRequest = true)
    (mem : stored ∈ (ledger.run steps).1.database.rows .tokenPrice)
    (held : priceWindow stored.row = .ok window) (ordered : window.start ≤ window.finish) :
    0 ≤ ledger.settings.windowLength.micros := by
  obtain ⟨_, first, _, window', _, held', shows⟩ := price_rows_retell fresh allowed mem
  obtain rfl := Except.ok.inj (held'.symm.trans held)
  have finish := shows.finish
  have start := shows.start
  have le : window'.start.micros ≤ window'.finish.micros := ordered
  rw [start] at le
  omega

/-- What is known of the window of a row after a run. -/
theorem run_price_window {ledger : Ledger} {steps : List Step} {stored : Stored .tokenPrice}
    {window : Window} (fresh : ledger.database = Database.fresh)
    (allowed : ∀ step ∈ steps, step.isRequest = true)
    (mem : stored ∈ (ledger.run steps).1.database.rows .tokenPrice)
    (held : priceWindow stored.row = .ok window) :
    window.InNumbers ∧ window.start ≤ window.finish ∧ 0 ≤ ledger.settings.windowLength.micros := by
  have none_ : ledger.database.rows .tokenPrice = [] := by
    rw [fresh, Database.rows_fresh]
  have ordered := ordered_of_priceWindow held ((run_sound allowed none_).conditions stored mem)
  obtain ⟨_, held', numbers⟩ := run_prices_inNumbers fresh allowed stored mem
  obtain rfl := Except.ok.inj (held.symm.trans held')
  exact ⟨numbers, ordered, run_prices_forward fresh allowed mem held ordered⟩

/-! ## When an accepted price goes through -/

/-- The figures of the sample are numbers, and the window takes its price and has a number for its
average then. -/
structure PriceSample.Fits (sample : PriceSample) (window : Window) (now : Timestamp)
    (length : Duration) : Prop where
  price : sample.price.isNaN = false
  coinInLp : sample.coinInLp.isNaN = false
  pcInLp : sample.pcInLp.isNaN = false
  observed : ∃ update, (window.observeOrRollOver now sample.price length).result = .ok update
  average : (window.observeOrRollOver now sample.price length).window.average.isNaN = false

section Recorded

variable {settings : Settings} {now : Timestamp} {sample : PriceSample} {database : Database}
  {guard : Guard} {window : Window} {table : Table .tokenPrice} {stored : Stored .tokenPrice}

/-- A price that goes through revises the first row that it matches. -/
theorem recordPrice_ran (stands : database .tokenPrice = some table)
    (found : (table.select (priceClause sample.platform sample.asset)).head? = some stored)
    (limited : Guard.ofSetting settings.limit = .ok guard)
    (recorded : (recordPrice settings now sample database).result = .ok ()) :
    ∃ revision row, (sample.revise guard now settings.windowLength stored.row).result =
        .ok revision ∧
      (revision.entries stored.row).fill = .ok row ∧
      (recordPrice settings now sample database).database =
        database.put .tokenPrice (table.replace stored.id row) := by
  have routed := recorded
  rw [recordPrice_eq_route] at routed
  obtain ⟨upserted, answered, _⟩ := ok_of_map routed
  obtain ⟨guard', limited', upserts⟩ := routePrice_upserts answered
  obtain rfl := Except.ok.inj (limited.symm.trans limited')
  generalize (recordPrice settings now sample database).database = next at upserts ⊢
  cases upserts with
  | created stands' none_ =>
    obtain rfl := Option.some.inj (stands.symm.trans stands')
    rw [none_] at found
    cases found
  | revised stands' found' decided makes =>
    obtain rfl := Option.some.inj (stands.symm.trans stands')
    obtain rfl := Option.some.inj (found.symm.trans found')
    exact ⟨_, _, decided, makes.filled, rfl⟩

/-- A row that a price goes to is found by it as before, and shows the price. -/
theorem found_again {revision : Revision .tokenPrice} {row : Row .tokenPrice}
    (found : (table.select (priceClause sample.platform sample.asset)).head? = some stored)
    (decided : (sample.revise guard now settings.windowLength stored.row).result = .ok revision)
    (filled : (revision.entries stored.row).fill = .ok row) :
    ((table.replace stored.id row).select (priceClause sample.platform sample.asset)).head? =
      some ⟨stored.id, row⟩ := by
  obtain ⟨_, selected⟩ := List.mem_filter.1 (List.mem_of_mem_head? found)
  obtain ⟨rest, first⟩ :=
    Table.select_replace found (priceClause_holds_revision selected decided filled)
  rw [first]
  rfl

/-- **A price that the guard accepts goes through just if its row can take it.** -/
theorem recordPrice_accepted_iff (stands : database .tokenPrice = some table)
    (found : (table.select (priceClause sample.platform sample.asset)).head? = some stored)
    (limited : Guard.ofSetting settings.limit = .ok guard) (onePerKey : OnePerKey table.rows)
    (held : priceWindow stored.row = .ok window) (numbers : window.InNumbers)
    (ordered : window.start ≤ window.finish) (forward : 0 ≤ settings.windowLength.micros)
    (judged : (guard.judge (some window.standing) sample.price).accepted = true) :
    (recordPrice settings now sample database).result = .ok () ↔
      sample.Fits window now settings.windowLength := by
  constructor
  · intro recorded
    obtain ⟨revision, row, decided, filled, _⟩ := recordPrice_ran stands found limited recorded
    have last := lastPrice_of_revision decided filled
    unfold PriceSample.revise at decided
    simp only [held, judged, if_true] at decided
    cases observed : (window.observeOrRollOver now sample.price settings.windowLength).result with
    | error _ =>
      rw [observed] at decided
      cases decided
    | ok update =>
      rw [observed] at decided
      cases decided
      exact {
        price := not_isNaN_of_beq (beq_symm last.price)
        coinInLp := not_isNaN_of_beq (beq_symm last.coinInLp)
        pcInLp := not_isNaN_of_beq (beq_symm last.pcInLp)
        observed := ⟨update, observed⟩
        average := not_isNaN_of_beq
          (beq_symm (Revision.holds filled .periodRunningAverage rfl).real) }
  · intro fits
    obtain ⟨update, observed⟩ := fits.observed
    obtain ⟨lastNumber, later⟩ := numbers.left ordered forward observed
    have decided : (sample.revise guard now settings.windowLength stored.row).result =
        .ok (sample.accepted
          (window.observeOrRollOver now sample.price settings.windowLength).window) := by
      unfold PriceSample.revise
      simp only [held, judged, if_true, observed]
    obtain ⟨row, stamps, widths, filled⟩ := Revision.fills stored.row
      (PriceSample.accepted_takes fits.price fits.coinInLp fits.pcInLp fits.average lastNumber)
    have conditions : row.checkConditions = .ok () := by
      rw [checkConditions_tokenPrice, (Revision.holds filled .periodStart rfl).moment,
        (Revision.holds filled .periodEnd rfl).moment]
      exact later
    have mem : stored ∈ table.rows := List.mem_of_mem_filter (List.mem_of_mem_head? found)
    have keys := (keyed_price sample guard now settings.windowLength).revised_keys onePerKey mem
      decided filled
    exact (recordPrice_upserts limited
      (.revised stands found decided ⟨stamps, widths, filled, conditions, keys⟩)).1

/-- A price that goes through opens the feed if the guard accepts it, and else stops it. -/
theorem shows_of_revision {revision : Revision .tokenPrice} {row : Row .tokenPrice}
    (held : priceWindow stored.row = .ok window)
    (decided : (sample.revise guard now settings.windowLength stored.row).result = .ok revision)
    (filled : (revision.entries stored.row).fill = .ok row) :
    row.Shows sample.price
      (!(guard.judge (some window.standing) sample.price).accepted) := by
  cases quotes_of_revision decided filled with
  | accepted held' judged observed names shows keeps =>
    obtain rfl := Except.ok.inj (held.symm.trans held')
    rwa [judged]
  | rejected held' judged names shows keeps =>
    obtain rfl := Except.ok.inj (held.symm.trans held')
    rwa [judged]

end Recorded

/-! ## The result -/

/-- The row that a price goes to: the first one that it matches. -/
def Ledger.FindsPrice (ledger : Ledger) (sample : PriceSample) (stored : Stored .tokenPrice) :
    Prop :=
  ∃ table, ledger.database .tokenPrice = some table ∧
    (table.select (priceClause sample.platform sample.asset)).head? = some stored

/-- **A price that comes again is accepted just if it is finite.** After any run from empty tables,
with a limit that is positive: if a price equals the last sample of the row that it goes to, the
guard accepts it if it is finite, and if it is not, rejects it and all others. If it goes through,
the feed of the row runs or is stopped accordingly, and it goes through if the row can take it;
otherwise nothing changes, and the feed stays stopped if it was. -/
theorem standing_price {ledger before : Ledger} {steps : List Step} {sample : PriceSample}
    {limit last : Float} {stored : Stored .tokenPrice} {window : Window}
    (fresh : ledger.database = Database.fresh)
    (allowed : ∀ step ∈ steps, step.isRequest = true) (reached : (ledger.run steps).1 = before)
    (resolved : resolveLimit before.settings.limit = .ok limit) (positive : 0.0 < limit)
    (finds : before.FindsPrice sample stored) (held : priceWindow stored.row = .ok window)
    (isLast : window.lastSample = some last) (again : (sample.price == last) = true) :
    ((Guard.mk limit).judge (some last) sample.price).accepted = last.isFinite ∧
    ((before.step (.call (.putTokenPrice sample))).2.result = .ok .done →
      ∃ row, (before.step (.call (.putTokenPrice sample))).1.FindsPrice sample ⟨stored.id, row⟩ ∧
        row.Shows sample.price (!last.isFinite)) ∧
    (∀ failure, (before.step (.call (.putTokenPrice sample))).2.result = .error failure →
      (before.step (.call (.putTokenPrice sample))).1.database = before.database) ∧
    (last.isFinite = true →
      ((before.step (.call (.putTokenPrice sample))).2.result = .ok .done ↔
        sample.Fits window before.clock before.settings.windowLength)) ∧
    (last.isFinite = false → ∀ candidate,
      ((Guard.mk limit).judge (some last) candidate).accepted = false) := by
  obtain ⟨table, stands, found⟩ := finds
  have limited : Guard.ofSetting before.settings.limit = .ok ⟨limit⟩ := by
    unfold Guard.ofSetting
    rw [resolved]
    rfl
  have standing : window.standing = last := by
    unfold Window.standing
    rw [isLast, Option.getD_some]
  have verdict := @judge_standing ⟨limit⟩ last sample.price positive again
  refine ⟨verdict, fun done => ?_, fun failure failed => ?_, fun finite => ?_, judge_special⟩
  · obtain ⟨revision, row, decided, filled, next⟩ :=
      recordPrice_ran stands found limited (step_putTokenPrice_iff.1 done)
    have shows := shows_of_revision held decided filled
    rw [standing, verdict] at shows
    refine ⟨row, ⟨_, ?_, found_again found decided filled⟩, shows⟩
    show (recordPrice before.settings before.clock sample before.database).database _ = _
    rw [next, Database.put_same]
  · exact attempt_error (error_of_map failed)
  · have mem : stored ∈ before.database.rows .tokenPrice := by
      rw [Database.rows_of_table stands]
      exact List.mem_of_mem_filter (List.mem_of_mem_head? found)
    have none_ : ledger.database.rows .tokenPrice = [] := by
      rw [fresh, Database.rows_fresh]
    have onePerKey : OnePerKey (before.database.rows .tokenPrice) :=
      reached ▸ (run_sound allowed none_).onePerKey
    obtain ⟨numbers, ordered, forward⟩ := run_price_window fresh allowed (reached ▸ mem) held
    rw [← Ledger.run_settings steps, reached] at forward
    rw [Database.rows_of_table stands] at onePerKey
    rw [step_putTokenPrice_iff]
    exact recordPrice_accepted_iff stands found limited onePerKey held numbers ordered forward
      (by rw [standing, verdict, finite])

/-- A ledger whose first price is given. -/
def Ledger.priced (price : Float) : Ledger :=
  (emptyLedger.run [.call (.putTokenPrice (quote "ORCA" "RAY" price))]).1

/-- The same price again, beside the sample that the window begins with. -/
theorem priced_again :
    ∃ stored window, (Ledger.priced 2.0).FindsPrice (quote "ORCA" "RAY" 2.0) stored ∧
      priceWindow stored.row = .ok window ∧ window.lastSample = some 2.0 ∧
      ∃ row, ((Ledger.priced 2.0).step
          (.call (.putTokenPrice (quote "ORCA" "RAY" 2.0)))).1.FindsPrice
            (quote "ORCA" "RAY" 2.0) ⟨stored.id, row⟩ ∧
        (row .feedStopped : Bool) = false := by
  let clause := priceClause "ORCA" "RAY"
  have stands : (((Ledger.priced 2.0).database .tokenPrice).bind fun table =>
      (table.select clause).head?.bind fun stored =>
        (priceWindow stored.row).toOption.bind Window.lastSample) = some 2.0 := by
    decide +kernel
  obtain ⟨table, stands, rest⟩ := Option.bind_eq_some_iff.1 stands
  obtain ⟨stored, found, rest⟩ := Option.bind_eq_some_iff.1 rest
  obtain ⟨window, held, isLast⟩ := Option.bind_eq_some_iff.1 rest
  have recorded : (recordPrice (Ledger.priced 2.0).settings (Ledger.priced 2.0).clock
      (quote "ORCA" "RAY" 2.0) (Ledger.priced 2.0).database).result.toOption = some () := by
    decide +kernel
  obtain ⟨_, went, _⟩ := @standing_price emptyLedger (Ledger.priced 2.0)
    [.call (.putTokenPrice (quote "ORCA" "RAY" 2.0))] (quote "ORCA" "RAY" 2.0) defaultLimit 2.0
    stored window rfl (by simp [Step.isRequest]) rfl rfl (by decide +kernel) ⟨table, stands, found⟩
    (toOption_eq_some.1 held) isLast (by decide +kernel)
  obtain ⟨row, again, shows⟩ := went (step_putTokenPrice (toOption_eq_some.1 recorded))
  have finite : (2.0 : Float).isFinite = true := by decide +kernel
  refine ⟨stored, window, ⟨table, stands, found⟩, toOption_eq_some.1 held, isLast, row, again, ?_⟩
  rw [shows.feedStopped, finite]
  rfl

/-- An infinite price is taken once. When it comes again, its feed is stopped. -/
theorem infinite_price_again :
    ∃ stored ∈ ((Ledger.priced infinity).step
        (.call (.putTokenPrice (quote "ORCA" "RAY" infinity)))).1.database.rows .tokenPrice,
      ((stored.row .price : Float) == infinity) = true ∧
      (stored.row .periodObservedPrices : Option (List Float)) = some [infinity] ∧
      (stored.row .feedStopped : Bool) = true := by
  decide +kernel

end FarmLedger
