/-
# FarmLedger.Proofs.Prices.Recorded — prices that go through

A price whose figures are all numbers and that names its mint (`PriceSample.IsWhole`) is recorded
whatever its asset and its platform are called. `recordPrice_first` is such a price in empty
tables, and `recordPrice_outlier` one that is rejected by the only row that there is. Both say what
the table is afterwards; they are the moves from which runs with names of one's choice are made.
-/
import FarmLedger.Proofs.Prices.Put

namespace FarmLedger

open FarmLedger.Number FarmLedger.Time

variable {settings : Settings} {now : Timestamp} {sample : PriceSample} {database : Database}
  {guard : Guard} {window : Window}

/-- **What the upsert of a price can do, recording does.** -/
theorem recordPrice_upserts {upserted : Upserted} {next : Database}
    (limited : Guard.ofSetting settings.limit = .ok guard)
    (upserts : Upserts (priceClause sample.platform sample.asset)
      ((Window.begin now settings.windowLength (some sample.price)).map sample.draft)
      (sample.revise guard now settings.windowLength) database upserted next) :
    (recordPrice settings now sample database).result = .ok () ∧
      (recordPrice settings now sample database).database = next := by
  obtain ⟨after, ran, reached⟩ := @Transaction.upsert_ran _ ⟨database, []⟩
    (.matcher (priceMatcher sample.platform sample.asset)) _ _ _ _ _
    (compile_priceMatcher _ _) (check_priceClause _ _) upserts
  have routed : routePrice settings now sample database =
      ⟨.ok upserted, after.database, after.journal⟩ := by
    unfold routePrice
    rw [limited]
    exact transact_ran ran
  rw [recordPrice_eq_route, routed]
  exact ⟨rfl, reached⟩

/-! ## What a row takes -/

/-- All figures of the sample are numbers, and it names its mint. -/
structure PriceSample.IsWhole (sample : PriceSample) : Prop where
  price : sample.price.isNaN = false
  coinInLp : sample.coinInLp.isNaN = false
  pcInLp : sample.pcInLp.isNaN = false
  tokenMint : ∃ mint, sample.tokenMint = some mint

namespace PriceSample

theorem IsWhole.draft_takes (whole : sample.IsWhole) (average : window.average.isNaN = false)
    (lastAverage : window.lastAverage.isNaN = false) (column : Entity.Column .tokenPrice) :
    (Entity.tokenPrice.kind column).Takes
      ((Entity.tokenPrice.kind column).orDefault (sample.draft window column)) := by
  cases column with
  | asset => exact .text _
  | price => exact .real whole.price
  | platform => exact .text _
  | coinInLp => exact .real whole.coinInLp
  | pcInLp => exact .real whole.pcInLp
  | assetIdentifier => exact .text _
  | periodStart => exact .moment _
  | periodEnd => exact .moment _
  | periodObservedPrices => exact .reals _
  | periodRunningAverage => exact .real average
  | lastPeriodAverage => exact .real lastAverage
  | feedStopped => exact .flag _
  | tokenMint =>
    obtain ⟨mint, named⟩ := whole.tokenMint
    show Kind.text.Takes sample.tokenMint
    rw [named]
    exact .text mint

/-- What an accepted sample writes: its figures, and the window that it joined. -/
theorem accepted_takes (price : sample.price.isNaN = false)
    (coinInLp : sample.coinInLp.isNaN = false) (pcInLp : sample.pcInLp.isNaN = false)
    (average : window.average.isNaN = false) (lastAverage : window.lastAverage.isNaN = false)
    (column : Entity.Column .tokenPrice) (given : Option (Entity.tokenPrice.kind column).Given)
    (set : sample.accepted window column = .set given) :
    (Entity.tokenPrice.kind column).Takes given := by
  cases column with
  | price =>
    cases set
    exact .real price
  | coinInLp =>
    cases set
    exact .real coinInLp
  | pcInLp =>
    cases set
    exact .real pcInLp
  | periodStart =>
    cases set
    exact .moment _
  | periodEnd =>
    cases set
    exact .moment _
  | periodObservedPrices =>
    cases set
    exact .reals _
  | periodRunningAverage =>
    cases set
    exact .real average
  | lastPeriodAverage =>
    cases set
    exact .real lastAverage
  | feedStopped =>
    cases set
    exact .flag false
  | _ => cases set

theorem IsWhole.rejected_takes (whole : sample.IsWhole) (column : Entity.Column .tokenPrice)
    (given : Option (Entity.tokenPrice.kind column).Given)
    (set : sample.rejected column = .set given) :
    (Entity.tokenPrice.kind column).Takes given := by
  cases column with
  | price =>
    cases set
    exact .real whole.price
  | coinInLp =>
    cases set
    exact .real whole.coinInLp
  | pcInLp =>
    cases set
    exact .real whole.pcInLp
  | feedStopped =>
    cases set
    exact .flag true
  | _ => cases set

end PriceSample

theorem checkConditions_tokenPrice {row : Row .tokenPrice} :
    row.checkConditions = .ok () ↔ (row .periodStart : Moment) ≤ row .periodEnd := by
  by_cases ordered : (row .periodStart : Moment) ≤ row .periodEnd
  · simp [Row.checkConditions, ordered]
  · simp [Row.checkConditions, ordered]

/-! ## The first price and the next -/

/-- The first price of an empty table makes a row. -/
theorem recordPrice_first (whole : sample.IsWhole)
    (limited : Guard.ofSetting settings.limit = .ok guard)
    (forward : 0 ≤ settings.windowLength.micros)
    (begun : Window.begin now settings.windowLength (some sample.price) = .ok window) :
    ∃ row, (recordPrice settings now sample .fresh).result = .ok () ∧
      (recordPrice settings now sample .fresh).database =
        Database.fresh.put .tokenPrice (Table.empty.append row) ∧
      Quotes guard settings.windowLength now sample none row ∧
      (row .periodObservedPrices : Option (List Float)) = some [sample.price] ∧
      row.checkConditions = .ok () := by
  obtain ⟨start, finish, _, _, shape⟩ := Window.begin_ok begun
  have average : window.average.isNaN = false := by
    rw [shape]
    exact whole.price
  have lastAverage : window.lastAverage.isNaN = false := by
    rw [shape]
    show (0.0 : Float).isNaN = false
    decide +kernel
  obtain ⟨row, stamps, widths, filled⟩ := Draft.fills (whole.draft_takes average lastAverage)
  have holds := Draft.holds filled
  have conditions : row.checkConditions = .ok () := by
    rw [checkConditions_tokenPrice, (holds .periodStart).moment, (holds .periodEnd).moment]
    exact Window.begin_ordered forward begun
  have samples : (row .periodObservedPrices : Option (List Float)) = some [sample.price] := by
    have value := Entries.value?_of_fill filled .periodObservedPrices
    rw [shape] at value
    exact (Option.some.inj value).symm
  have stands : Database.fresh .tokenPrice = some Table.empty := by
    simp [Database.fresh, Database.createTables, Database.empty]
  have makes : (sample.draft window).entries.Makes
      ((Table.empty : Table .tokenPrice).rows.map Stored.row) row :=
    ⟨stamps, widths, filled, conditions, row.checkKeys_nil⟩
  have drafted : (Window.begin now settings.windowLength (some sample.price)).map sample.draft =
      .ok (sample.draft window) := by
    rw [begun]
    rfl
  obtain ⟨recorded, database⟩ :=
    recordPrice_upserts limited (.created stands rfl drafted makes)
  exact ⟨row, recorded, database, quotes_of_draft begun filled, samples, conditions⟩

/-- An outlier beside the only row revises it. -/
theorem recordPrice_outlier {table : Table .tokenPrice} {stored : Stored .tokenPrice}
    (whole : sample.IsWhole) (limited : Guard.ofSetting settings.limit = .ok guard)
    (stands : database .tokenPrice = some table) (alone : table.rows = [stored])
    (selected : (priceClause sample.platform sample.asset).holds stored.row = true)
    (held : priceWindow stored.row = .ok window)
    (judged : (guard.judge (some window.standing) sample.price).accepted = false)
    (conditions : stored.row.checkConditions = .ok ()) :
    ∃ row, (recordPrice settings now sample database).result = .ok () ∧
      (recordPrice settings now sample database).database =
        database.put .tokenPrice (table.replace stored.id row) ∧
      Quotes guard settings.windowLength now sample (some stored.row) row ∧
      (row .feedStopped : Bool) = true := by
  have decided : (sample.revise guard now settings.windowLength stored.row).result =
      .ok sample.rejected := by
    unfold PriceSample.revise
    simp only [held, judged]
    rfl
  obtain ⟨row, stamps, widths, filled⟩ := Revision.fills stored.row whole.rejected_takes
  have keeps := Revision.keeps filled
  have kept : row.checkConditions = .ok () := by
    rw [checkConditions_tokenPrice, keeps .periodStart rfl, keeps .periodEnd rfl,
      ← checkConditions_tokenPrice]
    exact conditions
  have makes : (sample.rejected.entries stored.row).Makes
      ((table.rows.filter fun other => other.id != stored.id).map Stored.row) row := by
    have others : (table.rows.filter fun other => other.id != stored.id) = [] := by
      simp [alone]
    rw [others]
    exact ⟨stamps, widths, filled, kept, row.checkKeys_nil⟩
  have found : (table.select (priceClause sample.platform sample.asset)).head? = some stored := by
    simp [Table.select, alone, selected]
  obtain ⟨recorded, next⟩ := recordPrice_upserts limited (.revised stands found decided makes)
  exact ⟨row, recorded, next, quotes_of_revision decided filled,
    (Revision.holds filled .feedStopped rfl).flag⟩

end FarmLedger
