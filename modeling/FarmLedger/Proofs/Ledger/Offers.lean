/-
# FarmLedger.Proofs.Ledger.Offers — an incomplete offer that goes through is a sample

An offer with something left out is recorded as far as its values reach. What comes of it is
nothing new. A row that is written needs all that a sample has, so an incomplete offer never
creates one; and where it revises a row, it does what the sample `PriceOffer.standIn` does, which
has the missing values as messages show them (`PriceOffer.put_standIn`). Rates are logged by
rows of their own, so of an incomplete offer of rates nothing remains (`recordRateOffer_kept`).
-/
import FarmLedger.Ledger.Offers
import FarmLedger.Proofs.Storage.Upsert
import FarmLedger.Proofs.Storage.Values

namespace FarmLedger

open FarmLedger.Number FarmLedger.Time

/-! ## Two upserts that do the same -/

namespace Transaction

variable {α β : Type} {e : Entity} {session : Session}

theorem fetch_congr {given : Except Failure α} {rest rest' : α → Transaction β}
    (same : ∀ a, given = .ok a → (rest a).outcome session = (rest' a).outcome session) :
    (ofExcept given >>= rest).outcome session = (ofExcept given >>= rest').outcome session := by
  cases given with
  | error _ => rfl
  | ok a => exact same a rfl

theorem table_congr {rest rest' : Table e → Transaction β}
    (same : ∀ table, session.database e = some table →
      (rest table).outcome session = (rest' table).outcome session) :
    (Transaction.table e >>= rest).outcome session =
      (Transaction.table e >>= rest').outcome session := by
  change (ofExcept (session.database.table e) >>= rest).outcome session =
    (ofExcept (session.database.table e) >>= rest').outcome session
  exact fetch_congr fun table found => same table (Database.table_ok found)

theorem bind_congr {first first' : Transaction α} {rest : α → Transaction β}
    (same : first.outcome session = first'.outcome session) :
    (first >>= rest).outcome session = (first' >>= rest).outcome session := by
  rw [outcome_bind, outcome_bind, same]

/-- An upsert depends on the draft where nothing matches, and else on the first match alone. -/
theorem upsert_congr {criterion : Criterion} {create create' : Except Failure (Draft e)}
    {revise revise' : Row e → Revising e}
    (same : ∀ clause table, criterion.compile e = .ok clause → session.database e = some table →
      match (table.select clause).head? with
      | none => create = create'
      | some stored => revise stored.row = revise' stored.row) :
    (upsert e criterion create revise).outcome session =
      (upsert e criterion create' revise').outcome session := by
  refine fetch_congr fun clause compiled => fetch_congr fun _ _ =>
    table_congr fun table stands => ?_
  have both := same clause table compiled stands
  cases found : (table.select clause).head? with
  | none =>
    simp only [found] at both ⊢
    rw [both]
  | some stored =>
    simp only [found] at both ⊢
    rw [both]

end Transaction

theorem transact_congr {α : Type} {work work' : Transaction α} {database : Database}
    (same : work.outcome ⟨database, []⟩ = work'.outcome ⟨database, []⟩) :
    transact work database = transact work' database := by
  rw [transact_eq, transact_eq, same]

/-! ## What a column has to be handed -/

namespace Offer

variable {α : Type} {offer : Offer α}

theorem forOperation_ok {operation : String} {a : α} (h : offer.forOperation operation = .ok a) :
    offer = .value a := by
  cases offer <;> cases h
  rfl

theorem forReal_ok {given : Option α} (h : offer.forReal = .ok given) :
    offer.optional? = some given := by
  cases offer <;> cases h <;> rfl

theorem forPlace_ok {place : Nat} {given : Option α} (h : offer.forPlace place = .ok given) :
    offer.optional? = some given := by
  cases offer <;> cases h <;> rfl

theorem eq_value {a : α} (h : offer.optional? = some (some a)) : offer = .value a := by
  cases offer <;> cases h
  rfl

end Offer

/-- A column that needs a value was handed one. -/
theorem Kind.Holds.given {kind : Kind} {value : kind.Value} {given : Option kind.Given}
    (holds : kind.Holds value given) (unequal : kind.same value none = false)
    (needed : kind.toValue none = none) : ∃ a, given = some a := by
  cases given with
  | some a => exact ⟨a, rfl⟩
  | none =>
    rcases holds with same | kept
    · rw [unequal] at same
      cases same
    · rw [needed] at kept
      cases kept

/-! ## Prices -/

namespace PriceOffer

variable {offer : PriceOffer}

/-- The sample that an offer stands for, with missing values as messages show them. -/
def standIn (offer : PriceOffer) : PriceSample where
  asset := offer.asset.shown id
  platform := offer.platform.shown id
  price := offer.price.value?.getD 0.0
  coinInLp := offer.coinInLp.value?.getD 0.0
  pcInLp := offer.pcInLp.value?.getD 0.0
  tokenMint := offer.tokenMint.value?

theorem matcher_ok {platform : Offer String} {asset : String} {m : Matcher}
    (h : offeredMatcher platform (.value asset) = .ok m) :
    m = priceMatcher (platform.shown id) asset := by
  unfold offeredMatcher at h
  unfold priceMatcher
  by_cases none : platform = .value Schema.noVenue
  · subst none
    cases h
    rfl
  · rw [if_neg none] at h
    have venue : platform.shown id ≠ Schema.noVenue := by
      cases platform with
      | value text => exact fun same => none (congrArg Offer.value same)
      | missing => decide
      | blank => decide
    rw [if_neg venue]
    cases h
    rfl

/-- **What is offered for a new row is complete.** -/
theorem sample?_of_draft {asset : String} {window : Window} {draft : Draft .tokenPrice}
    {row : Row .tokenPrice} (named : offer.asset = .value asset)
    (drafted : offer.draft asset window = .ok draft) (filled : draft.entries.fill = .ok row) :
    offer.sample?.isSome := by
  obtain ⟨price, hPrice, drafted⟩ := ok_of_bind drafted
  obtain ⟨coin, hCoin, drafted⟩ := ok_of_bind drafted
  obtain ⟨pc, hPc, drafted⟩ := ok_of_bind drafted
  obtain ⟨platform, hPlatform, drafted⟩ := ok_of_bind drafted
  obtain ⟨mint, hMint, drafted⟩ := ok_of_bind drafted
  cases drafted
  obtain ⟨_, rfl⟩ := (Draft.holds filled .price).given rfl rfl
  obtain ⟨_, rfl⟩ := (Draft.holds filled .coinInLp).given rfl rfl
  obtain ⟨_, rfl⟩ := (Draft.holds filled .pcInLp).given rfl rfl
  obtain ⟨_, rfl⟩ := (Draft.holds filled .platform).given rfl rfl
  have price := Offer.eq_value (Offer.forReal_ok hPrice)
  have coin := Offer.eq_value (Offer.forReal_ok hCoin)
  have pc := Offer.eq_value (Offer.forReal_ok hPc)
  have platform := Offer.eq_value (Offer.forPlace_ok hPlatform)
  have mint := Offer.forPlace_ok hMint
  simp [sample?, named, price, coin, pc, platform, mint, Offer.value?]

theorem withFigures_ok {revision figured : Revision .tokenPrice} {old row : Row .tokenPrice}
    (figures : offer.withFigures revision = .ok figured)
    (filled : (figured.entries old).fill = .ok row) :
    offer.price = .value offer.standIn.price ∧ offer.coinInLp = .value offer.standIn.coinInLp ∧
      offer.pcInLp = .value offer.standIn.pcInLp := by
  obtain ⟨price, hPrice, figures⟩ := ok_of_bind figures
  obtain ⟨coin, hCoin, figures⟩ := ok_of_bind figures
  obtain ⟨pc, hPc, figures⟩ := ok_of_bind figures
  cases figures
  obtain ⟨_, rfl⟩ := (Revision.holds filled .price rfl).given rfl rfl
  obtain ⟨_, rfl⟩ := (Revision.holds filled .coinInLp rfl).given rfl rfl
  obtain ⟨_, rfl⟩ := (Revision.holds filled .pcInLp rfl).given rfl rfl
  have price := Offer.eq_value (Offer.forReal_ok hPrice)
  have coin := Offer.eq_value (Offer.forReal_ok hCoin)
  have pc := Offer.eq_value (Offer.forReal_ok hPc)
  simp [standIn, price, coin, pc, Offer.value?]

theorem reviseUnpriced_ok {kind : String} {guard : Guard} {now : Timestamp} {length : Duration}
    {row : Row .tokenPrice} {revision : Revision .tokenPrice}
    (h : (offer.reviseUnpriced kind guard now length row).result = .ok revision) :
    offer.withFigures (fun _ => .keep) = .ok revision := by
  simp only [reviseUnpriced] at h
  split at h
  · cases h
  · split at h
    · cases h
    · split at h
      · exact h
      · split at h
        · cases h
        · cases h
        · split at h
          · cases h
          · exact h

theorem withFigures_complete (revision : Revision .tokenPrice)
    (price : offer.price = .value offer.standIn.price)
    (coin : offer.coinInLp = .value offer.standIn.coinInLp)
    (pc : offer.pcInLp = .value offer.standIn.pcInLp) :
    offer.withFigures revision = .ok (fun
      | .price => .set (some offer.standIn.price)
      | .coinInLp => .set (some offer.standIn.coinInLp)
      | .pcInLp => .set (some offer.standIn.pcInLp)
      | column => revision column) := by
  unfold withFigures
  rw [price, coin, pc]
  rfl

theorem withFigures_standIn (part : PriceSample)
    (price : offer.price = .value offer.standIn.price)
    (coin : offer.coinInLp = .value offer.standIn.coinInLp)
    (pc : offer.pcInLp = .value offer.standIn.pcInLp) :
    (∀ window, offer.withFigures (part.accepted window) = .ok (offer.standIn.accepted window)) ∧
      offer.withFigures part.rejected = .ok offer.standIn.rejected := by
  refine ⟨fun window => ?_, ?_⟩
  · rw [withFigures_complete _ price coin pc]
    congr 1
    funext column
    cases column <;> rfl
  · rw [withFigures_complete _ price coin pc]
    congr 1
    funext column
    cases column <;> rfl

theorem revise_standIn {asset : String} {guard : Guard} {now : Timestamp} {length : Duration}
    {row : Row .tokenPrice} (price : offer.price = .value offer.standIn.price)
    (coin : offer.coinInLp = .value offer.standIn.coinInLp)
    (pc : offer.pcInLp = .value offer.standIn.pcInLp) :
    offer.revise asset guard now length row = offer.standIn.revise guard now length row := by
  unfold revise
  rw [price]
  obtain ⟨accepted, rejected⟩ := withFigures_standIn
    ⟨asset, offer.platform.shown id, offer.standIn.price, 0.0, 0.0, none⟩ price coin pc
  simp only [PriceSample.revise]
  cases priceWindow row with
  | error _ => rfl
  | ok window =>
    simp only
    split
    · split
      · rfl
      · simp only [Except.bind, accepted]
    · simp only [Except.bind, rejected]

/-- **An incomplete offer that goes through is recorded as a sample.** -/
theorem put_standIn {settings : Settings} {now : Timestamp} {database : Database}
    (incomplete : offer.sample? = none)
    (done : (attempt (offer.put settings now) database).result = .ok ()) :
    attempt (offer.put settings now) database =
      recordPrice settings now offer.standIn database := by
  obtain ⟨prepared, after, ready, ran, _⟩ := attempt_ok done
  rw [ready]
  obtain ⟨asset, named, ready⟩ := ok_of_bind ready
  obtain ⟨m, matched, ready⟩ := ok_of_bind ready
  obtain ⟨guard, limited, ready⟩ := ok_of_bind ready
  cases ready
  have named := Offer.forOperation_ok named
  rw [named] at matched
  have shown : offer.standIn.asset = asset := by simp [standIn, named, Offer.shown]
  obtain rfl : m = priceMatcher offer.standIn.platform offer.standIn.asset := by
    rw [shown]
    exact matcher_ok matched
  unfold recordPrice putTokenPrice
  rw [limited]
  obtain ⟨_, middle, ran, _⟩ := Transaction.ran_bind ran
  obtain ⟨clause, compiled, upserts⟩ := Transaction.ran_upsert ran
  refine transact_congr (Transaction.bind_congr (Transaction.upsert_congr ?_))
  intro clause' table compiled' stands
  obtain rfl : clause' = clause := Except.ok.inj (compiled'.symm.trans compiled)
  generalize middle.database = next at upserts
  cases upserts with
  | created stands' fresh drafted makes =>
    obtain ⟨window, _, drafted⟩ := ok_of_bind drafted
    have complete := sample?_of_draft named drafted makes.filled
    rw [incomplete] at complete
    cases complete
  | @revised table' stored revision row stands' found decided makes =>
    obtain rfl : table' = table := Option.some.inj (stands'.symm.trans stands)
    simp only [found]
    have figures : ∃ part, offer.withFigures part = .ok revision := by
      unfold revise at decided
      split at decided
      · obtain ⟨part, _, figures⟩ := ok_of_bind decided
        exact ⟨part, figures⟩
      · exact ⟨_, reviseUnpriced_ok decided⟩
      · exact ⟨_, reviseUnpriced_ok decided⟩
    obtain ⟨part, figures⟩ := figures
    obtain ⟨price, coin, pc⟩ := withFigures_ok figures makes.filled
    exact revise_standIn price coin pc

end PriceOffer

/-! ## Rates -/

/-- **What is offered for the log of rates is complete.** -/
theorem RateOffer.sample?_of_draft {offer : RateOffer} {platform asset : String}
    {draft : Draft .interestRate} {row : Row .interestRate}
    (ofPlatform : offer.platform.forOperation "upper" = .ok platform)
    (ofAsset : offer.asset.forOperation "upper" = .ok asset)
    (drafted : offer.draft (Text.upper platform) (Text.upper asset) = .ok draft)
    (filled : draft.entries.fill = .ok row) : offer.sample?.isSome := by
  obtain ⟨lending, hLending, drafted⟩ := ok_of_bind drafted
  obtain ⟨borrow, hBorrow, drafted⟩ := ok_of_bind drafted
  obtain ⟨utilization, hUtilization, drafted⟩ := ok_of_bind drafted
  obtain ⟨available, hAvailable, drafted⟩ := ok_of_bind drafted
  obtain ⟨borrowed, hBorrowed, drafted⟩ := ok_of_bind drafted
  cases drafted
  obtain ⟨_, rfl⟩ := (Draft.holds filled .lendingRate).given rfl rfl
  obtain ⟨_, rfl⟩ := (Draft.holds filled .borrowRate).given rfl rfl
  obtain ⟨_, rfl⟩ := (Draft.holds filled .utilizationRate).given rfl rfl
  obtain ⟨_, rfl⟩ := (Draft.holds filled .availableAmount).given rfl rfl
  obtain ⟨_, rfl⟩ := (Draft.holds filled .borrowedAmount).given rfl rfl
  have lending := Offer.eq_value (Offer.forReal_ok hLending)
  have borrow := Offer.eq_value (Offer.forReal_ok hBorrow)
  have utilization := Offer.eq_value (Offer.forReal_ok hUtilization)
  have available := Offer.eq_value (Offer.forReal_ok hAvailable)
  have borrowed := Offer.eq_value (Offer.forReal_ok hBorrowed)
  have platform := Offer.forOperation_ok ofPlatform
  have asset := Offer.forOperation_ok ofAsset
  simp [sample?, lending, borrow, utilization, available, borrowed, platform, asset,
    Offer.value?]

/-- **Of an incomplete offer of rates nothing remains.** -/
theorem recordRateOffer_kept {settings : Settings} {now : Timestamp} {offer : RateOffer}
    {database : Database} (incomplete : offer.sample? = none) :
    (recordRateOffer settings now offer database).database = database := by
  unfold recordRateOffer
  rw [incomplete]
  simp only
  cases answered : (attempt offer.put database).result with
  | error _ => exact attempt_error answered
  | ok _ =>
    obtain ⟨prepared, after, ready, ran, _⟩ := attempt_ok answered
    obtain ⟨platform, ofPlatform, ready⟩ := ok_of_bind ready
    obtain ⟨asset, ofAsset, ready⟩ := ok_of_bind ready
    cases ready
    obtain ⟨draft, drafted, ran⟩ := Transaction.ran_fetch ran
    obtain ⟨_, middle, inserted, _⟩ := Transaction.ran_bind ran
    obtain ⟨table, row, _, makes, _⟩ := Transaction.ran_insert inserted
    have complete := RateOffer.sample?_of_draft ofPlatform ofAsset drafted makes.filled
    rw [incomplete] at complete
    cases complete

end FarmLedger
