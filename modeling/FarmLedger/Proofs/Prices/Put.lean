/-
# FarmLedger.Proofs.Prices.Put — what recording a price does to its row

`Quotes` lists how a row comes out of a price that is recorded: it is created, or it was there and
the guard accepts the price, or the guard rejects it. Each case says what the columns hold, and
`recordPrice_cases` says that recording either fails and changes nothing, or puts such a row to the
end of the table or in the place of the first match (`Routes`).

`routePrice` is recording a price together with the answer of its upsert, which row it was and
whether it is new.

A property of single rows that all three cases establish holds of every row that a run leaves
(`run_price_rows`).
-/
import FarmLedger.Proofs.Ledger.Requests
import FarmLedger.Proofs.Window.History

namespace FarmLedger

open FarmLedger.Number FarmLedger.Time

/-! ## The clause of a sample -/

def priceClause (platform asset : String) : Clause .tokenPrice :=
  if platform = Schema.noVenue then .anyOf [[(.asset, some asset), (.platform, some platform)]]
  else .oneOf .assetIdentifier [some (priceIdentifier platform asset)]

theorem compile_priceMatcher (platform asset : String) :
    (priceMatcher platform asset).compile .tokenPrice = .ok (priceClause platform asset) := by
  unfold priceMatcher priceClause
  split <;> rfl

theorem check_priceClause (platform asset : String) :
    (priceClause platform asset).check false = .ok () := by
  unfold priceClause
  split <;> rfl

theorem priceClause_holds {platform asset : String} {row : Row .tokenPrice} :
    (priceClause platform asset).holds row = true ↔
      if platform = Schema.noVenue then
        (row .asset : String) = asset ∧ (row .platform : String) = platform
      else (row .assetIdentifier : String) = priceIdentifier platform asset := by
  unfold priceClause
  split
  · simp [Clause.holds, Row.has, Row.text?, Kind.asText?]
  · simp [Clause.holds, Row.has, Row.text?, Kind.asText?]

/-! ## Rows -/

/-- The row's window is the given one, as far as a row can keep it. -/
def Row.KeepsWindow (row : Row .tokenPrice) (given : Window) : Prop :=
  ∃ kept, priceWindow row = .ok kept ∧ kept.Keeps given

structure Row.Shows (row : Row .tokenPrice) (price : Float) (stopped : Bool) : Prop where
  price : ((row .price : Float) == price) = true
  feedStopped : (row .feedStopped : Bool) = stopped

structure Row.Names (row : Row .tokenPrice) (asset platform identifier : String) : Prop where
  asset : (row .asset : String) = asset
  platform : (row .platform : String) = platform
  identifier : (row .assetIdentifier : String) = identifier

/-- How a row comes out of a price that is recorded, from the row that there was before. -/
inductive Quotes (guard : Guard) (length : Duration) (now : Timestamp) (sample : PriceSample) :
    Option (Row .tokenPrice) → Row .tokenPrice → Prop
  | created {window : Window} {row : Row .tokenPrice}
      (begun : Window.begin now length (some sample.price) = .ok window)
      (names : row.Names sample.asset sample.platform
        (priceIdentifier sample.platform sample.asset))
      (shows : row.Shows sample.price false) (keeps : row.KeepsWindow window) :
      Quotes guard length now sample none row
  | accepted {old row : Row .tokenPrice} {window : Window} {update : Window.Update}
      (held : priceWindow old = .ok window)
      (judged : (guard.judge (some window.standing) sample.price).accepted = true)
      (observed : (window.observeOrRollOver now sample.price length).result = .ok update)
      (names : row.Names (old .asset) (old .platform) (old .assetIdentifier))
      (shows : row.Shows sample.price false)
      (keeps : row.KeepsWindow (window.observeOrRollOver now sample.price length).window) :
      Quotes guard length now sample (some old) row
  | rejected {old row : Row .tokenPrice} {window : Window}
      (held : priceWindow old = .ok window)
      (judged : (guard.judge (some window.standing) sample.price).accepted = false)
      (names : row.Names (old .asset) (old .platform) (old .assetIdentifier))
      (shows : row.Shows sample.price true) (keeps : priceWindow row = .ok window) :
      Quotes guard length now sample (some old) row

theorem Quotes.names {guard : Guard} {length : Duration} {now : Timestamp} {sample : PriceSample}
    {old row : Row .tokenPrice} (quotes : Quotes guard length now sample (some old) row) :
    row.Names (old .asset) (old .platform) (old .assetIdentifier) := by
  cases quotes with
  | accepted _ _ _ names _ _ => exact names
  | rejected _ _ names _ _ => exact names

section Columns

variable {guard : Guard} {length : Duration} {now : Timestamp} {sample : PriceSample}
  {window : Window} {old row : Row .tokenPrice}

theorem keepsWindow_of_holds
    (start : Kind.moment.Holds (row .periodStart) (some (.ofUtc window.start)))
    (finish : Kind.moment.Holds (row .periodEnd) (some (.ofUtc window.finish)))
    (samples : Kind.reals.Holds (row .periodObservedPrices) (some window.samples))
    (average : Kind.real.Holds (row .periodRunningAverage) (some window.average))
    (lastAverage : Kind.real.Holds (row .lastPeriodAverage) (some window.lastAverage)) :
    row.KeepsWindow window := by
  obtain ⟨items, stored, keeps⟩ := Window.Keeps.of_holds start finish samples average lastAverage
  refine ⟨_, ?_, keeps⟩
  unfold priceWindow
  rw [stored]

theorem quotes_of_draft (begun : Window.begin now length (some sample.price) = .ok window)
    (filled : (sample.draft window).entries.fill = .ok row) :
    Quotes guard length now sample none row := by
  have holds := Draft.holds filled
  exact .created begun
    ⟨(holds .asset).text, (holds .platform).text, (holds .assetIdentifier).text⟩
    ⟨(holds .price).real, (holds .feedStopped).flag⟩
    (keepsWindow_of_holds (holds .periodStart) (holds .periodEnd) (holds .periodObservedPrices)
      (holds .periodRunningAverage) (holds .lastPeriodAverage))

theorem quotes_of_revision {revision : Revision .tokenPrice}
    (decided : (sample.revise guard now length old).result = .ok revision)
    (filled : (revision.entries old).fill = .ok row) :
    Quotes guard length now sample (some old) row := by
  unfold PriceSample.revise at decided
  cases held : priceWindow old with
  | error _ => rw [held] at decided; cases decided
  | ok window =>
    simp only [held] at decided
    have keeps := Revision.keeps filled
    cases judged : (guard.judge (some window.standing) sample.price).accepted with
    | true =>
      simp only [judged, if_true] at decided
      cases observed : (window.observeOrRollOver now sample.price length).result with
      | error _ => rw [observed] at decided; cases decided
      | ok update =>
        rw [observed] at decided
        cases decided
        exact .accepted held judged observed
          ⟨keeps .asset rfl, keeps .platform rfl, keeps .assetIdentifier rfl⟩
          ⟨(Revision.holds filled .price rfl).real, (Revision.holds filled .feedStopped rfl).flag⟩
          (keepsWindow_of_holds (Revision.holds filled .periodStart rfl)
            (Revision.holds filled .periodEnd rfl)
            (Revision.holds filled .periodObservedPrices rfl)
            (Revision.holds filled .periodRunningAverage rfl)
            (Revision.holds filled .lastPeriodAverage rfl))
    | false =>
      simp only [judged] at decided
      cases decided
      have window_ : priceWindow row = priceWindow old := by
        have start := keeps .periodStart rfl
        have finish := keeps .periodEnd rfl
        have samples := keeps .periodObservedPrices rfl
        have average := keeps .periodRunningAverage rfl
        have lastAverage := keeps .lastPeriodAverage rfl
        simp only [priceWindow, start, finish, samples, average, lastAverage]
      exact .rejected held judged
        ⟨keeps .asset rfl, keeps .platform rfl, keeps .assetIdentifier rfl⟩
        ⟨(Revision.holds filled .price rfl).real, (Revision.holds filled .feedStopped rfl).flag⟩
        (window_.trans held)

end Columns

/-! ## Tables -/

/-- How a row comes to its place: it is new and goes to the end, or it replaces the first match. -/
inductive Routes (guard : Guard) (length : Duration) (now : Timestamp) (sample : PriceSample)
    (before : Database) : Upserted → Database → Prop
  | created {table : Table .tokenPrice} {row : Row .tokenPrice}
      (stands : before .tokenPrice = some table)
      (fresh : table.select (priceClause sample.platform sample.asset) = [])
      (quotes : Quotes guard length now sample none row) :
      Routes guard length now sample before ⟨table.nextId, true⟩
        (before.put .tokenPrice (table.append row))
  | revised {table : Table .tokenPrice} {stored : Stored .tokenPrice} {row : Row .tokenPrice}
      (stands : before .tokenPrice = some table)
      (found : (table.select (priceClause sample.platform sample.asset)).head? = some stored)
      (quotes : Quotes guard length now sample (some stored.row) row) :
      Routes guard length now sample before ⟨stored.id, false⟩
        (before.put .tokenPrice (table.replace stored.id row))

/-- Records a price, and tells which row it went to. -/
def routePrice (settings : Settings) (now : Timestamp) (sample : PriceSample)
    (database : Database) : Outcome Upserted :=
  attempt
    ((Guard.ofSetting settings.limit).map fun guard =>
      upsert .tokenPrice (.matcher (priceMatcher sample.platform sample.asset))
        ((Window.begin now settings.windowLength (some sample.price)).map sample.draft)
        (sample.revise guard now settings.windowLength))
    database

variable {settings : Settings} {now : Timestamp} {sample : PriceSample} {database : Database}

theorem recordPrice_eq_route :
    recordPrice settings now sample database =
      (routePrice settings now sample database).map fun _ => () := by
  unfold recordPrice putTokenPrice routePrice
  cases Guard.ofSetting settings.limit with
  | error _ => rfl
  | ok guard => exact transact_discard _ database

/-- Recording a price that goes through is an upsert. -/
theorem routePrice_upserts {upserted : Upserted}
    (h : (routePrice settings now sample database).result = .ok upserted) :
    ∃ guard, Guard.ofSetting settings.limit = .ok guard ∧
      Upserts (priceClause sample.platform sample.asset)
        ((Window.begin now settings.windowLength (some sample.price)).map sample.draft)
        (sample.revise guard now settings.windowLength) database upserted
        (recordPrice settings now sample database).database := by
  rw [recordPrice_eq_route]
  change ∃ guard, _ ∧ Upserts _ _ _ _ _ (routePrice settings now sample database).database
  obtain ⟨prepared, after, ready, ran, reached⟩ := attempt_ok h
  obtain ⟨guard, limited, rfl⟩ := ok_of_map ready
  obtain ⟨clause, compiled, upserts⟩ := Transaction.ran_upsert ran
  obtain rfl : priceClause sample.platform sample.asset = clause :=
    Except.ok.inj ((compile_priceMatcher _ _).symm.trans compiled)
  refine ⟨guard, limited, ?_⟩
  unfold routePrice
  rw [reached]
  exact upserts

/-- **Recording a price goes through to one row.** -/
theorem routePrice_ok {upserted : Upserted}
    (h : (routePrice settings now sample database).result = .ok upserted) :
    ∃ guard, Guard.ofSetting settings.limit = .ok guard ∧
      Routes guard settings.windowLength now sample database upserted
        (recordPrice settings now sample database).database := by
  obtain ⟨guard, limited, upserts⟩ := routePrice_upserts h
  refine ⟨guard, limited, ?_⟩
  generalize (recordPrice settings now sample database).database = next at upserts
  cases upserts with
  | created stands fresh drafted makes =>
    obtain ⟨window, begun, rfl⟩ := ok_of_map drafted
    exact .created stands fresh (quotes_of_draft begun makes.filled)
  | revised stands found decided makes =>
    exact .revised stands found (quotes_of_revision decided makes.filled)

/-- **Recording a price fails and changes nothing, or goes through to one row.** -/
theorem recordPrice_cases (settings : Settings) (now : Timestamp) (sample : PriceSample)
    (database : Database) :
    ((∃ failure, (routePrice settings now sample database).result = .error failure) ∧
        (recordPrice settings now sample database).database = database) ∨
      ∃ upserted guard, (routePrice settings now sample database).result = .ok upserted ∧
        Guard.ofSetting settings.limit = .ok guard ∧
        Routes guard settings.windowLength now sample database upserted
          (recordPrice settings now sample database).database := by
  cases answered : (routePrice settings now sample database).result with
  | error failure =>
    refine .inl ⟨⟨failure, rfl⟩, ?_⟩
    rw [recordPrice_eq_route]
    exact attempt_error answered
  | ok upserted =>
    obtain ⟨guard, limited, routes⟩ := routePrice_ok answered
    exact .inr ⟨upserted, guard, rfl, limited, routes⟩

/-! ## Requests and runs -/

variable {guard : Guard} {length : Duration} {before after : Database} {upserted : Upserted}
  {stored : Stored .tokenPrice}

/-- Where a row comes from: it was there, it is the new one, or it was revised. -/
theorem Routes.mem (routes : Routes guard length now sample before upserted after)
    (mem : stored ∈ after.rows .tokenPrice) :
    (stored.id ≠ upserted.id ∧ stored ∈ before.rows .tokenPrice) ∨
      (stored.id = upserted.id ∧ upserted.created = true ∧
        Quotes guard length now sample none stored.row) ∨
      (stored.id = upserted.id ∧ upserted.created = false ∧ ∃ old ∈ before.rows .tokenPrice,
        old.id = upserted.id ∧ Quotes guard length now sample (some old.row) stored.row) := by
  cases routes with
  | @created table row stands fresh quotes =>
    rw [Database.rows_put, Table.mem_append] at mem
    rw [Database.rows_of_table stands]
    rcases mem with old | rfl
    · have less := table.lt_nextId stored.id (List.mem_map.2 ⟨stored, old, rfl⟩)
      exact .inl ⟨Nat.ne_of_lt less, old⟩
    · exact .inr (.inl ⟨rfl, rfl, quotes⟩)
  | @revised table first row stands found quotes =>
    rw [Database.rows_put] at mem
    rw [Database.rows_of_table stands]
    rcases Table.mem_replace mem with ⟨different, old⟩ | rfl
    · exact .inl ⟨different, old⟩
    · have firstMem : first ∈ table.rows := List.mem_of_mem_filter (List.mem_of_mem_head? found)
      exact .inr (.inr ⟨rfl, rfl, first, firstMem, rfl, quotes⟩)

theorem step_putTokenPrice_iff {ledger : Ledger} {sample : PriceSample} :
    (ledger.step (.call (.putTokenPrice sample))).2.result = .ok .done ↔
      (recordPrice ledger.settings ledger.clock sample ledger.database).result = .ok () := by
  show (recordPrice ledger.settings ledger.clock sample ledger.database).result.map _ = _ ↔ _
  cases (recordPrice ledger.settings ledger.clock sample ledger.database).result with
  | error _ => exact ⟨nofun, nofun⟩
  | ok _ => exact ⟨fun _ => rfl, fun _ => rfl⟩

theorem step_putTokenPrice {ledger : Ledger} {sample : PriceSample}
    (recorded : (recordPrice ledger.settings ledger.clock sample ledger.database).result = .ok ()) :
    (ledger.step (.call (.putTokenPrice sample))).2.result = .ok .done :=
  step_putTokenPrice_iff.2 recorded

/-- **A request takes price rows out, or routes a price to one of them.** -/
theorem apply_price_cases (settings : Settings) (database : Database) (request : Request) :
    (((Request.apply settings database request).rows .tokenPrice).Sublist
        (database.rows .tokenPrice) ∧
      ∀ sample, request.call = .putTokenPrice sample →
        ∃ failure, (routePrice settings request.now sample database).result = .error failure) ∨
      ∃ sample upserted guard, request.call = .putTokenPrice sample ∧
        (routePrice settings request.now sample database).result = .ok upserted ∧
        Guard.ofSetting settings.limit = .ok guard ∧
        Routes guard settings.windowLength request.now sample database upserted
          (Request.apply settings database request) := by
  obtain ⟨now, call⟩ := request
  by_cases outside : .tokenPrice ∉ call.writes
  · refine .inl ⟨?_, ?_⟩
    · rw [Database.rows_congr (show Request.apply settings database ⟨now, call⟩ .tokenPrice = _ from
        Call.perform_other outside)]
    · rintro sample rfl
      exact absurd List.mem_cons_self outside
  · cases call with
    | putTokenPrice sample =>
      rcases recordPrice_cases settings now sample database with
        ⟨failed, kept⟩ | ⟨upserted, guard, answered, limited, routes⟩
      · refine .inl ⟨?_, ?_⟩
        · change ((recordPrice settings now sample database).database.rows _).Sublist _
          rw [kept]
        · rintro other same
          cases same
          exact failed
      · exact .inr ⟨sample, upserted, guard, rfl, answered, limited, routes⟩
    | delete e criterion =>
      obtain rfl : .tokenPrice = e := by simpa [Call.writes] using outside
      refine .inl ⟨remove_sublist criterion database, ?_⟩
      rintro other same
      cases same
    | putSample log draft => cases log <;> exact absurd (by simp [Call.writes]) outside
    | putAccount account draft => cases account <;> exact absurd (by simp [Call.writes]) outside
    | _ => exact absurd (by simp [Call.writes]) outside

/-- **What every way to a row establishes, all rows of a run have.** -/
theorem run_price_rows {P : Row .tokenPrice → Prop} {ledger : Ledger} {steps : List Step}
    (fresh : ledger.database = Database.fresh)
    (allowed : ∀ step ∈ steps, step.isRequest = true)
    (established : ∀ guard now sample old row, Guard.ofSetting ledger.settings.limit = .ok guard →
      (∀ row, old = some row → P row) →
      Quotes guard ledger.settings.windowLength now sample old row → P row) :
    ∀ stored ∈ (ledger.run steps).1.database.rows .tokenPrice, P stored.row := by
  refine Ledger.run_invariant
    (P := fun database => ∀ stored ∈ database.rows .tokenPrice, P stored.row) allowed ?_ ?_
  · rw [fresh, Database.rows_fresh]
    exact List.forall_mem_nil _
  intro request database have_ stored mem
  rcases apply_price_cases ledger.settings database request with
    ⟨sublist, _⟩ | ⟨sample, upserted, guard, _, _, limited, routes⟩
  · exact have_ stored (sublist.subset mem)
  · rcases routes.mem mem with
      ⟨_, old⟩ | ⟨_, _, quotes⟩ | ⟨_, _, old, oldMem, _, quotes⟩
    · exact have_ stored old
    · refine established guard _ sample none stored.row limited ?_ quotes
      intro row none_
      cases none_
    · refine established guard _ sample (some old.row) stored.row limited ?_ quotes
      intro row same
      rw [← Option.some.inj same]
      exact have_ old oldMem

end FarmLedger
