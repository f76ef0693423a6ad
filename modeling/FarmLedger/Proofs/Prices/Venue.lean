/-
# FarmLedger.Proofs.Prices.Venue — prices that go to another venue's row

The row of a price is looked up by its identifier, and an identifier does not tell where the
platform ends. `Touches` says that some run leaves a row of another platform for a price to create
or change, and `touches_iff` finds that this is so exactly if the two can share an identifier.
Prices without a venue are looked up by their platform and only find their own rows.

`venue_kept_iff` draws the conclusions: a price stays with its platform for sure exactly if it has
no venue, or no hyphen in its platform and its asset; and the rows that have no venue, which are
told apart by asset and platform, can be changed by a price of the platform `NA-` and one more
name.
-/
import FarmLedger.Proofs.Prices.Identifier
import FarmLedger.Proofs.Prices.Recorded

namespace FarmLedger

open FarmLedger.Number FarmLedger.Text FarmLedger.Time

/-- After some run from empty tables, a price of the asset on the platform is recorded and creates
or changes a row of the other platform. -/
def Touches (platform asset other : String) : Prop :=
  ∃ (ledger : Ledger) (steps : List Step) (sample : PriceSample) (stored : Stored .tokenPrice),
    ledger.database = .fresh ∧ (∀ step ∈ steps, step.isRequest = true) ∧
    sample.platform = platform ∧ sample.asset = asset ∧
    ((ledger.run steps).1.step (.call (.putTokenPrice sample))).2.result = .ok .done ∧
    stored ∈ ((ledger.run steps).1.step (.call (.putTokenPrice sample))).1.database.rows
      .tokenPrice ∧
    stored ∉ (ledger.run steps).1.database.rows .tokenPrice ∧
    (stored.row .platform : String) = other

/-! ## Only by the identifier -/

/-- The row's identifier is that of its platform and asset. -/
def Row.Identified (row : Row .tokenPrice) : Prop :=
  (row .assetIdentifier : String) = priceIdentifier (row .platform) (row .asset)

theorem run_price_identified {ledger : Ledger} {steps : List Step}
    (fresh : ledger.database = Database.fresh)
    (allowed : ∀ step ∈ steps, step.isRequest = true) :
    ∀ stored ∈ (ledger.run steps).1.database.rows .tokenPrice, stored.row.Identified := by
  refine run_price_rows (P := Row.Identified) fresh allowed ?_
  intro guard now sample old row _ identified quotes
  cases old with
  | none =>
    cases quotes with
    | created _ names _ _ =>
      rw [Row.Identified, names.identifier, names.platform, names.asset]
  | some old =>
    have names := quotes.names
    rw [Row.Identified, names.identifier, names.platform, names.asset]
    exact identified old rfl

variable {settings : Settings} {now : Timestamp} {sample : PriceSample} {database : Database}
  {stored : Stored .tokenPrice} {platform asset other : String}

/-- The row that a price creates or changes is of its platform, or was found by its identifier. -/
theorem recordPrice_touched
    (identified : ∀ stored ∈ database.rows .tokenPrice, stored.row.Identified)
    (mem : stored ∈ (recordPrice settings now sample database).database.rows .tokenPrice)
    (touched : stored ∉ database.rows .tokenPrice) :
    (stored.row .platform : String) = sample.platform ∨
      sample.platform ≠ Schema.noVenue ∧
        ∃ quoted, priceIdentifier (stored.row .platform) quoted =
          priceIdentifier sample.platform sample.asset := by
  rcases recordPrice_cases settings now sample database with ⟨_, kept⟩ | ⟨_, guard, _, _, routes⟩
  · rw [kept] at mem
    exact absurd mem touched
  · generalize (recordPrice settings now sample database).database = after at mem routes
    cases routes with
    | @created table row stands fresh quotes =>
      rw [Database.rows_put, Table.mem_append, ← Database.rows_of_table stands] at mem
      obtain rfl := mem.resolve_left touched
      cases quotes with
      | created _ names _ _ => exact .inl names.platform
    | @revised table first row stands found quotes =>
      rw [Database.rows_put] at mem
      have selected := List.mem_filter.1 (List.mem_of_mem_head? found)
      rcases Table.mem_replace mem with ⟨_, old⟩ | rfl
      · rw [← Database.rows_of_table stands] at old
        exact absurd old touched
      · have names := quotes.names
        have matched := priceClause_holds.1 selected.2
        by_cases venue : sample.platform = Schema.noVenue
        · rw [if_pos venue] at matched
          exact .inl (names.platform.trans matched.2)
        · rw [if_neg venue] at matched
          refine .inr ⟨venue, first.row .asset, ?_⟩
          rw [← matched, names.platform]
          rw [Database.rows_of_table stands] at identified
          exact (identified first selected.1).symm

/-! ## By every shared identifier -/

/-- A price with any names. -/
def quote (platform asset : String) (price : Float) : PriceSample :=
  ⟨asset, platform, price, 0.0, 0.0, some "mint"⟩

theorem quote_isWhole {price : Float} (number : price.isNaN = false) :
    (quote platform asset price).IsWhole := by
  have zero : (0.0 : Float).isNaN = false := by decide +kernel
  exact ⟨number, zero, zero, "mint", rfl⟩

theorem limit_emptyLedger : Guard.ofSetting emptyLedger.settings.limit = .ok ⟨defaultLimit⟩ := by
  rfl

theorem touches_own : Touches platform asset platform := by
  have whole : (quote platform asset 1.0).IsWhole := quote_isWhole (by decide +kernel)
  obtain ⟨window, begun⟩ := begin_emptyLedger 1.0
  obtain ⟨row, recorded, next, quotes, _, _⟩ :=
    recordPrice_first whole limit_emptyLedger (by decide) begun
  refine ⟨emptyLedger, [], quote platform asset 1.0, ⟨1, row⟩, rfl, List.forall_mem_nil _, rfl,
    rfl, step_putTokenPrice recorded, ?_, ?_, ?_⟩
  · show _ ∈ (recordPrice emptyLedger.settings emptyLedger.clock _ .fresh).database.rows _
    rw [next, Database.rows_put]
    exact List.mem_singleton_self _
  · show _ ∉ Database.fresh.rows .tokenPrice
    rw [Database.rows_fresh]
    exact List.not_mem_nil
  · cases quotes with
    | created _ names _ _ => exact names.platform

theorem touches_shared {quoted : String} (venue : platform ≠ Schema.noVenue)
    (shared : priceIdentifier other quoted = priceIdentifier platform asset) :
    Touches platform asset other := by
  have whole : (quote other quoted 1.0).IsWhole := quote_isWhole (by decide +kernel)
  have outlier : (quote platform asset 100.0).IsWhole := quote_isWhole (by decide +kernel)
  obtain ⟨window, begun⟩ := begin_emptyLedger 1.0
  obtain ⟨row, _, next, quotes, samples, conditions⟩ :=
    recordPrice_first whole limit_emptyLedger (by decide) begun
  cases quotes with
  | created _ names shows _ =>
  have selected : (priceClause platform asset).holds row = true := by
    rw [priceClause_holds, if_neg venue, names.identifier]
    exact shared
  have held : priceWindow row = .ok ⟨row .periodStart, row .periodEnd, [1.0],
      row .periodRunningAverage, row .lastPeriodAverage⟩ := by
    unfold priceWindow
    rw [samples]
    rfl
  have judged : ((⟨defaultLimit⟩ : Guard).judge (some 1.0) 100.0).accepted = false := by
    decide +kernel
  obtain ⟨revised, recorded, after, quotes, stopped⟩ :=
    @recordPrice_outlier _ emptyLedger.clock _ _ _ _ _ ⟨1, row⟩ outlier limit_emptyLedger
      (Database.put_same Database.fresh (Table.empty.append row)) rfl selected held judged
      conditions
  have first : (emptyLedger.run [.call (.putTokenPrice (quote other quoted 1.0))]).1.database =
      Database.fresh.put .tokenPrice (Table.empty.append row) := next
  rw [← first] at recorded after
  refine ⟨emptyLedger, [.call (.putTokenPrice (quote other quoted 1.0))],
    quote platform asset 100.0, ⟨1, revised⟩, rfl, ?_, rfl, rfl, step_putTokenPrice recorded,
    ?_, ?_, ?_⟩
  · simp [Step.isRequest]
  · show _ ∈ (recordPrice emptyLedger.settings emptyLedger.clock _
      (Ledger.database _)).database.rows .tokenPrice
    rw [after, Database.rows_put]
    exact List.mem_singleton_self _
  · rw [first, Database.rows_put]
    intro same
    have revised_ : (⟨1, revised⟩ : Stored .tokenPrice) = ⟨1, row⟩ := List.mem_singleton.1 same
    cases revised_
    exact Bool.false_ne_true (shows.feedStopped.symm.trans stopped)
  · exact quotes.names.platform.trans names.platform

/-- **A price reaches the rows of its platform, and those that share its identifier.** -/
theorem touches_iff :
    Touches platform asset other ↔
      other = platform ∨ platform ≠ Schema.noVenue ∧
        ∃ quoted, priceIdentifier other quoted = priceIdentifier platform asset := by
  constructor
  · rintro ⟨ledger, steps, sample, stored, fresh, allowed, rfl, rfl, _, mem, touched, rfl⟩
    exact recordPrice_touched (run_price_identified fresh allowed) mem touched
  · rintro (rfl | ⟨venue, quoted, shared⟩)
    · exact touches_own
    · exact touches_shared venue shared

/-! ## Venues -/

/-- **When prices keep to their venue.** All that a price can create or change is rows of its own
platform exactly if it has no venue, or no hyphen in its platform and its asset. A row that has no
venue can be changed by prices without a venue, and by those whose platform is `NA`, a hyphen and a
part without hyphens, and whose asset has no hyphen. -/
theorem venue_kept_iff (platform asset : String) :
    ((∀ other, Touches platform asset other → other = platform) ↔
      platform = Schema.noVenue ∨ '-' ∉ platform.toList ∧ '-' ∉ asset.toList) ∧
    (Touches platform asset Schema.noVenue ↔
      platform = Schema.noVenue ∨ ∃ part : String, platform = Schema.noVenue ++ "-" ++ part ∧
        '-' ∉ part.toList ∧ '-' ∉ asset.toList) := by
  constructor
  · rw [← priceIdentifier_own_iff]
    constructor
    · intro own
      by_cases venue : platform = Schema.noVenue
      · exact .inl venue
      · exact .inr fun other quoted shared => own other (touches_shared venue shared)
    · intro kept other touches
      rcases touches_iff.1 touches with same | ⟨venue, quoted, shared⟩
      · exact same
      · exact (kept.resolve_left venue) other quoted shared
  · constructor
    · intro touches
      rcases touches_iff.1 touches with same | ⟨venue, shared⟩
      · exact .inl same.symm
      · rcases priceIdentifier_shared_iff.1 shared with same | later | ⟨part, _, longer, _⟩
        · exact absurd same.symm venue
        · exact .inr later
        · have marked : '-' ∈ Schema.noVenue.toList := by
            rw [append_hyphen_eq_iff.1 longer]
            exact List.mem_append_right _ List.mem_cons_self
          exact absurd marked (by decide)
    · rintro (rfl | ⟨part, longer, free⟩)
      · exact touches_own
      · have shared := priceIdentifier_shared_iff.2 (.inr (.inl ⟨part, longer, free⟩))
        refine touches_iff.2 (.inr ⟨?_, shared⟩)
        rw [longer]
        exact append_hyphen_ne

/-- A price of `USDC` on `NA-RAY` goes to the row of a pool that has no venue. -/
example : Touches "NA-RAY" "USDC" Schema.noVenue :=
  @touches_shared "NA-RAY" "USDC" _ "LP-RAY-USDC" (by decide) (by decide +kernel)

end FarmLedger
