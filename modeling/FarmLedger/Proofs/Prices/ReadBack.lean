/-
# FarmLedger.Proofs.Prices.ReadBack — a price is read where it was recorded

Whoever records a price and then asks for it by the same names gets the row that the price went to
first, with the figures of the sample. Nothing has to be known of the rows that there are: several
may match, as pools without a venue share an identifier, and the guard may have rejected the price.

The upsert and the query look with one clause, and both take the match with the lowest id. That the
row still matches when it is written is left: a new row has the names of its sample
(`priceClause_holds_draft`), and a revised one those that it was found by
(`priceClause_holds_revision`). `Upserts.read_back` does the rest.
-/
import FarmLedger.Proofs.Storage.OneRow
import FarmLedger.Proofs.Writers.Prices

namespace FarmLedger

open FarmLedger.Time

variable {ledger : Ledger} {sample : PriceSample} {window : Window} {guard : Guard}
  {now : Timestamp} {length : Duration} {old row : Row .tokenPrice}
  {revision : Revision .tokenPrice}

/-! ## Rows that are written match -/

theorem priceClause_holds_draft (filled : (sample.draft window).entries.fill = .ok row) :
    (priceClause sample.platform sample.asset).holds row = true := by
  have first := firstPrice_of_draft filled
  rw [priceClause_holds]
  split
  · exact ⟨first.asset, first.platform⟩
  · exact first.assetIdentifier

theorem priceClause_holds_revision {platform asset : String}
    (found : (priceClause platform asset).holds old = true)
    (decided : (sample.revise guard now length old).result = .ok revision)
    (filled : (revision.entries old).fill = .ok row) :
    (priceClause platform asset).holds row = true := by
  have names := (quotes_of_revision decided filled).names
  rw [priceClause_holds] at found ⊢
  rw [names.asset, names.platform, names.identifier]
  exact found

/-! ## The result -/

/-- **A price that was recorded is the first one that is read.** If a price goes through, then its
matcher reads at least one row, and the first is the very one that was created or updated; it shows
the price and the figures of the pool. -/
theorem price_read_back
    (done : (ledger.step (.call (.putTokenPrice sample))).2.result = .ok .done) :
    ∃ upserted first rest,
      (routePrice ledger.settings ledger.clock sample ledger.database).result = .ok upserted ∧
      upserted.Wrote (ledger.database.rows .tokenPrice) first
        ((ledger.step (.call (.putTokenPrice sample))).1.database.rows .tokenPrice) ∧
      ((ledger.step (.call (.putTokenPrice sample))).1.step (.call (.read .tokenPrice
          (.matcher (priceMatcher sample.platform sample.asset)) none))).2.result =
        .ok (.rows .tokenPrice (first :: rest)) ∧
      first.row.LastPrice sample := by
  have recorded : (recordPrice ledger.settings ledger.clock sample ledger.database).result =
      .ok () := by
    obtain ⟨_, recorded, _⟩ := ok_of_map done
    exact recorded
  have routed : ∃ upserted,
      (routePrice ledger.settings ledger.clock sample ledger.database).result = .ok upserted := by
    rw [recordPrice_eq_route] at recorded
    obtain ⟨upserted, answered, _⟩ := ok_of_map recorded
    exact ⟨upserted, answered⟩
  obtain ⟨upserted, answered⟩ := routed
  obtain ⟨guard, _, upserts⟩ := routePrice_upserts answered
  obtain ⟨table, first, rest, stands, found, wrote, shows⟩ :=
    upserts.read_back (P := fun row => row.LastPrice sample)
      (fun draft row drafted filled => by
        obtain ⟨window, _, rfl⟩ := ok_of_map drafted
        exact ⟨priceClause_holds_draft filled, lastPrice_of_draft filled⟩)
      (fun old revision row selected decided filled =>
        ⟨priceClause_holds_revision selected decided filled,
          lastPrice_of_revision decided filled⟩)
  refine ⟨upserted, first, rest, answered, ?_, ?_, shows⟩
  · rw [← Database.rows_of_table stands] at wrote
    exact wrote
  · refine step_read (Database.read_iff.2 ⟨_, table, ?_, check_priceClause _ _, stands,
      found.symm⟩)
    exact compile_priceMatcher sample.platform sample.asset

/-- Two pools without a venue that share an identifier. -/
def sharedIdentifier : Ledger :=
  (emptyLedger.run [
    .call (.putTokenPrice ⟨"LP-RAY-USDC", "NA", 2.0, 0.0, 0.0, some "mint"⟩),
    .call (.putTokenPrice ⟨"XX-RAY-USDC", "NA", 3.0, 0.0, 0.0, some "mint"⟩)]).1

/-- A price that both pools match, twice as high as that of the first. -/
def sharedOutlier : PriceSample := ⟨"USDC", "NA-RAY", 4.0, 5.0, 6.0, some "mint"⟩

/-- Of two rows that match, the first shows the price, which was rejected. -/
theorem sharedOutlier_read_back :
    ∃ first rest, (first :: rest).map (fun stored => (stored.row .feedStopped : Bool)) =
        [true, false] ∧
      ((sharedIdentifier.step (.call (.putTokenPrice sharedOutlier))).1.step (.call
          (.read .tokenPrice (.matcher (priceMatcher "NA-RAY" "USDC")) none))).2.result =
        .ok (.rows .tokenPrice (first :: rest)) ∧
      first.row.LastPrice sharedOutlier := by
  have recorded : (recordPrice sharedIdentifier.settings sharedIdentifier.clock sharedOutlier
      sharedIdentifier.database).result.toOption = some () := by
    decide +kernel
  have done := step_putTokenPrice (toOption_eq_some.1 recorded)
  obtain ⟨_, first, rest, _, _, read, shows⟩ := price_read_back done
  have stopped : (Query.rows ({ criterion := .matcher (priceMatcher "NA-RAY" "USDC") } :
      Query .tokenPrice) none
        (sharedIdentifier.step (.call (.putTokenPrice sharedOutlier))).1.database).toOption.map
      (fun found => found.map fun stored => (stored.row .feedStopped : Bool)) =
        some [true, false] := by
    decide +kernel
  generalize (sharedIdentifier.step (.call (.putTokenPrice sharedOutlier))).1 = after
    at read stopped ⊢
  obtain ⟨found, asked, stops⟩ := Option.map_eq_some_iff.1 stopped
  have both : Answer.rows .tokenPrice found = .rows .tokenPrice (first :: rest) :=
    Except.ok.inj ((step_read (toOption_eq_some.1 asked)).symm.trans read)
  cases both
  exact ⟨first, rest, stops, read, shows⟩

end FarmLedger
