/-
# FarmLedger.Proofs.Keys.Puts — every put looks for its own key

The lookup of a put and the keys of its table are written down apart from each other. `Keyed` says
that they fit: a row with the key of the put is found by its lookup, a row that the put creates has
that key, and a row that it changes keeps the columns of keys. There is one lemma for each put
that looks for a row; the accounts share theirs.

From this alone an upsert does not run into a taken key, where no two rows had one before
(`Keyed.clashFree`), and it adds the key or leaves all keys as they were (`Keyed.placed`).
-/
import FarmLedger.Proofs.Keys.Clash
import FarmLedger.Proofs.Keys.Sound
import FarmLedger.Proofs.Prices.Put
import FarmLedger.Proofs.Rates.Put

namespace FarmLedger

open FarmLedger.Number FarmLedger.Text FarmLedger.Time

variable {e : Entity} {clause : Clause e} {create : Except Failure (Draft e)}
  {revise : Row e → Revising e} {key : Option NaturalKey}

/-- The clause selects every row with the key. -/
def Clause.Covers (clause : Clause e) (key : Option NaturalKey) : Prop :=
  ∀ (row : Row e) (own : NaturalKey), key = some own → row.naturalKey? = some own →
    clause.holds row = true

/-- An upsert looks for the key that it writes, and does not change keys. -/
structure Keyed (clause : Clause e) (create : Except Failure (Draft e))
    (revise : Row e → Revising e) (key : Option NaturalKey) : Prop where
  covers : clause.Covers key
  /-- A new row has the key. -/
  names : ∀ draft row, create = .ok draft → draft.entries.fill = .ok row → row.naturalKey? = key
  /-- A changed row keeps the columns of keys. -/
  keeps : ∀ old revision, (revise old).result = .ok revision →
    ∀ part ∈ e.schema.keys, ∀ column ∈ part.columns, revision column = .keep
  createFree : NoClash create
  reviseFree : ∀ old, NoClash (revise old).result

/-- Where the row of a put goes: it is the only one with its key, or it takes the place of the first
match and keeps the columns of keys. -/
inductive Placed (clause : Clause e) (key : Option NaturalKey) (before after : Database) : Prop
  | added {table : Table e} {row : Row e} (stands : before e = some table)
      (fresh : table.select clause = []) (named : row.naturalKey? = key)
      (next : after e = some (table.append row))
  | changed {table : Table e} {stored : Stored e} {row : Row e} (stands : before e = some table)
      (found : (table.select clause).head? = some stored) (keeps : row.KeepsKeys stored.row)
      (next : after e = some (table.replace stored.id row))

namespace Keyed

theorem placed (keyed : Keyed clause create revise key) {before after : Database}
    {upserted : Upserted} (upserts : Upserts clause create revise before upserted after) :
    Placed clause key before after := by
  cases upserts with
  | created stands fresh drafted makes =>
    exact .added stands fresh (keyed.names _ _ drafted makes.filled) (Database.put_same _ _)
  | revised stands found decided makes =>
    exact .changed stands found (Revision.keepsKeys makes.filled (keyed.keeps _ _ decided))
      (Database.put_same _ _)

/-- A row that was looked for in vain may stand beside the others. -/
theorem created_keys (keyed : Keyed clause create revise key) {table : Table e} {draft : Draft e}
    {row : Row e} (none_ : table.select clause = []) (drafted : create = .ok draft)
    (filled : draft.entries.fill = .ok row) :
    row.checkKeys (table.rows.map Stored.row) = .ok () := by
  -- A row with the key of the new one would have been found.
  refine Row.checkKeys_iff.2 ?_
  intro other mem own ours theirs
  obtain ⟨stored, storedMem, rfl⟩ := List.mem_map.1 mem
  rw [keyed.names draft row drafted filled] at ours
  exact List.filter_eq_nil_iff.1 none_ stored storedMem
    (keyed.covers stored.row own ours theirs)

/-- A row that was found and revised may stand beside the others. -/
theorem revised_keys (keyed : Keyed clause create revise key) {table : Table e} {stored : Stored e}
    {revision : Revision e} {row : Row e} (onePerKey : OnePerKey table.rows)
    (storedMem : stored ∈ table.rows) (decided : (revise stored.row).result = .ok revision)
    (filled : (revision.entries stored.row).fill = .ok row) :
    row.checkKeys ((table.rows.filter fun other => other.id != stored.id).map Stored.row) =
      .ok () := by
  -- The revised row has the key that its old one had alone.
  have kept := (Revision.keepsKeys filled (keyed.keeps _ _ decided)).naturalKey?_eq
  refine Row.checkKeys_iff.2 ?_
  intro other mem own ours theirs
  obtain ⟨beside, besideMem, rfl⟩ := List.mem_map.1 mem
  obtain ⟨besideMem, different⟩ := List.mem_filter.1 besideMem
  rw [kept] at ours
  obtain rfl := onePerKey beside besideMem stored storedMem own theirs ours
  exact bne_iff_ne.1 different rfl

/-- **An upsert that looks for its key does not find it taken.** -/
theorem clashFree (keyed : Keyed clause create revise key) {criterion : Criterion}
    {before : Session} (compiled : criterion.compile e = .ok clause)
    (checked : clause.check false = .ok ())
    (onePerKey : OnePerKey (before.database.rows e)) :
    (upsert e criterion create revise).ClashFree before := by
  refine Transaction.clashFree_fetch (compiled ▸ .ok clause) fun clause' same => ?_
  obtain rfl : clause = clause' := Except.ok.inj (compiled.symm.trans same)
  refine Transaction.clashFree_fetch (checked ▸ .ok ()) fun _ _ => ?_
  refine Transaction.clashFree_table fun table stands => ?_
  rw [Database.rows_of_table stands] at onePerKey
  cases found : (table.select clause).head? with
  | none =>
    refine Transaction.clashFree_fetch keyed.createFree fun draft drafted => ?_
    refine Transaction.clashFree_bind (Transaction.clashFree_insert (noClash_insert ?_))
      fun _ _ _ => Transaction.clashFree_bind (Transaction.clashFree_log _)
        fun _ _ _ => Transaction.clashFree_pure _
    intro table' row stands' filled
    obtain rfl : table = table' := Option.some.inj (stands.symm.trans stands')
    exact keyed.created_keys (List.head?_eq_none_iff.1 found) drafted filled
  | some stored =>
    have storedMem : stored ∈ table.rows :=
      List.mem_of_mem_filter (List.mem_of_mem_head? found)
    refine Transaction.clashFree_bind (Transaction.clashFree_log _) fun _ middle logged => ?_
    refine Transaction.clashFree_fetch (keyed.reviseFree stored.row) fun revision decided => ?_
    refine Transaction.clashFree_bind (Transaction.clashFree_update (noClash_update ?_))
      fun _ _ _ => Transaction.clashFree_pure _
    intro table' row stands' filled
    rw [Transaction.ran_log logged] at stands'
    obtain rfl : table = table' := Option.some.inj (stands.symm.trans stands')
    exact keyed.revised_keys onePerKey storedMem decided filled

end Keyed

/-! ## Prices -/

/-- The key of a price: its identifier, or its asset if it has no venue. -/
def priceKey (platform asset : String) : NaturalKey :=
  if platform = Schema.noVenue then .unlisted asset else .name (priceIdentifier platform asset)

theorem revise_price_ok {sample : PriceSample} {guard : Guard} {now : Timestamp}
    {length : Duration} {old : Row .tokenPrice} {revision : Revision .tokenPrice}
    (decided : (sample.revise guard now length old).result = .ok revision) :
    (∃ window, revision = sample.accepted window) ∨ revision = sample.rejected := by
  unfold PriceSample.revise at decided
  split at decided
  · cases decided
  · simp only at decided
    split at decided
    · split at decided
      · cases decided
      · exact .inl ⟨_, (Except.ok.inj decided).symm⟩
    · exact .inr (Except.ok.inj decided).symm

theorem noClash_revise_price (sample : PriceSample) (guard : Guard) (now : Timestamp)
    (length : Duration) (old : Row .tokenPrice) :
    NoClash (sample.revise guard now length old).result := by
  unfold PriceSample.revise priceWindow
  split
  · next failure held =>
    split at held
    · cases held
      exact .error rfl
    · cases held
  · next window _ =>
    have observed := Window.noClash_observeOrRollOver now length window sample.price
    simp only
    split
    · split
      · next failure failed => exact .error (observed failure failed)
      · exact .ok _
    · exact .ok _

theorem priceClause_covers (platform asset : String) :
    (priceClause platform asset).Covers (some (priceKey platform asset)) := by
  intro row own same theirs
  rw [← Option.some.inj same] at theirs
  rw [priceClause_holds]
  unfold priceKey at theirs
  by_cases ours : platform = Schema.noVenue <;>
    by_cases rows : (row .platform : String) = Schema.noVenue <;>
      simp_all [Row.naturalKey?]

theorem keyed_price (sample : PriceSample) (guard : Guard) (now : Timestamp) (length : Duration) :
    Keyed (priceClause sample.platform sample.asset)
      ((Window.begin now length (some sample.price)).map sample.draft)
      (sample.revise guard now length) (some (priceKey sample.platform sample.asset)) where
  covers := priceClause_covers _ _
  names draft row drafted filled := by
    obtain ⟨window, _, rfl⟩ := ok_of_map drafted
    have holds := Draft.holds filled
    simp only [Row.naturalKey?, (holds .platform).text, (holds .asset).text,
      (holds .assetIdentifier).text]
    rfl
  keeps old revision decided := by
    rcases revise_price_ok decided with ⟨window, rfl⟩ | rfl
    · simp [PriceSample.accepted]
    · simp [PriceSample.rejected]
  createFree := (Window.noClash_begin _ _ _).map _
  reviseFree old := noClash_revise_price sample guard now length old

/-! ## Rates -/

theorem noClash_revise_rate (sample : RateSample) (now : Timestamp) (length : Duration)
    (old : Row .interestRateMovingAverage) : NoClash (sample.revise now length old).result := by
  unfold RateSample.revise rateWindow
  split
  · next failure held =>
    split at held
    · cases held
      exact .error rfl
    · cases held
  · next window _ =>
    have observed := Window.noClash_observeOrRollOver now length window sample.lendingRate
    simp only
    split
    · next failure failed => exact .error (observed failure failed)
    · exact .ok _

/-- A name is in upper case already, so that the lookup does not change it. -/
theorem rateClause_covers (sample : RateSample) :
    (rateClause sample.folded.name).Covers (some (.name sample.folded.name)) := by
  intro row own same theirs
  rw [← Option.some.inj same] at theirs
  have named : (row .rateName : String) = sample.folded.name := by
    simpa [Row.naturalKey?] using theirs
  rw [rateClause_holds, named]
  exact (upper_rateName _ _).symm

theorem keyed_rate (sample : RateSample) (now : Timestamp) (length : Duration) :
    Keyed (rateClause sample.folded.name)
      ((Window.begin now length (some sample.lendingRate)).map sample.folded.averageDraft)
      (sample.folded.revise now length) (some (.name sample.folded.name)) where
  covers := rateClause_covers sample
  names draft row drafted filled := by
    obtain ⟨window, _, rfl⟩ := ok_of_map drafted
    have holds := Draft.holds filled
    simp only [Row.naturalKey?, (holds .rateName).text]
  keeps old revision decided := by
    obtain ⟨_, _, _, _, rfl⟩ := revise_rate_ok decided
    simp [averageRevision]
  createFree := (Window.noClash_begin _ _ _).map _
  reviseFree old := noClash_revise_rate sample.folded now length old

/-! ## Accounts -/

namespace Account

/-- The column that the accounts are looked up by. -/
def keyColumn : (account : Account) → account.entity.Column
  | vault => .accountAddress
  | depositTracking => .accountAddress
  | advertisedYield => .farmName
  | lendingOptimizerDistribution => .vaultName
  | v1ObligationLtv => .accountAddress
  | v1UserFarm => .accountAddress

def keyClause (account : Account) (key : Option String) : Clause account.entity :=
  .oneOf account.keyColumn [key]

theorem compile_key (account : Account) (key : Option String) :
    (Matcher.byField account.keyField [key]).compile account.entity =
      .ok (account.keyClause key) := by
  cases account <;> cases key <;> rfl

theorem keyClause_covers (account : Account) (key : Option String) :
    (account.keyClause key).Covers (key.map .name) := by
  intro row own same theirs
  obtain ⟨text, rfl, rfl⟩ := Option.map_eq_some_iff.1 same
  unfold keyClause
  cases account <;>
    simpa [Row.naturalKey?, Clause.holds, Row.has, Row.text?, Kind.asText?, keyColumn] using theirs

end Account

theorem keyed_account (account : Account) (draft : Draft account.entity) :
    Keyed (account.keyClause (account.key draft)) (.ok draft)
      (fun _ => .quiet (account.refresh draft)) ((account.key draft).map .name) where
  covers := account.keyClause_covers _
  names draft' row drafted filled := by
    cases drafted
    have value := Entries.value?_of_fill filled account.keyColumn
    cases account <;> exact (congrArg (Option.map NaturalKey.name) value).symm
  keeps old revision decided := by
    cases decided
    cases account <;> simp [Account.refresh, Account.isFixed]
  createFree := .ok draft
  reviseFree _ := .ok _

/-! ### Accounts that are prepared -/

theorem noClash_vault (state : VaultState) : NoClash state.draft := by
  refine .bind ?_ fun _ _ => .ok _
  unfold VaultState.lastCompoundSeconds
  split
  · exact .ok _
  · exact NoClash.map (.mapError _ fun _ => rfl) _

theorem key_vault {state : VaultState} {draft : Draft .vault} (prepared : state.draft = .ok draft) :
    Account.vault.key draft = state.accountAddress := by
  obtain ⟨_, _, prepared⟩ := ok_of_bind prepared
  cases prepared
  rfl

theorem noClash_itemsOf (row : Record.Json) : NoClash (itemsOf row) := by
  unfold itemsOf
  split
  · exact .ok _
  · exact .error rfl

theorem noClash_lengthOf (row : Record.Json) : NoClash (lengthOf row) := by
  unfold lengthOf
  split
  · exact .ok _
  · exact .error rfl

theorem noClash_split (split : DepositSplit) : NoClash split.draft := by
  refine .bind (noClash_lengthOf _) fun platforms _ =>
    .bind (noClash_lengthOf _) fun balances _ => ?_
  by_cases unequal : platforms ≠ balances
  · rw [if_pos unequal]
    exact .error rfl
  · rw [if_neg unequal]
    exact .bind (noClash_itemsOf _) fun _ _ => .bind (noClash_itemsOf _) fun _ _ =>
      .bind (.mapM _ fun _ => .mapError _ fun _ => rfl) fun _ _ => .ok _

theorem key_split {split : DepositSplit} {draft : Draft .lendingOptimizerDistribution}
    (prepared : split.draft = .ok draft) :
    Account.lendingOptimizerDistribution.key draft = split.vaultName := by
  obtain ⟨platforms, _, prepared⟩ := ok_of_bind prepared
  obtain ⟨balances, _, prepared⟩ := ok_of_bind prepared
  by_cases unequal : platforms ≠ balances
  · rw [if_pos unequal] at prepared
    cases prepared
  · rw [if_neg unequal] at prepared
    obtain ⟨_, _, prepared⟩ := ok_of_bind prepared
    obtain ⟨_, _, prepared⟩ := ok_of_bind prepared
    obtain ⟨_, _, prepared⟩ := ok_of_bind prepared
    cases prepared
    rfl

theorem noClash_farm (farm : UserFarm) : NoClash farm.draft :=
  .bind (noClash_itemsOf _) fun _ _ => .bind (noClash_itemsOf _) fun _ _ =>
    .bind (.mapM _ fun _ => .mapError _ fun _ => rfl) fun _ _ => .ok _

theorem key_farm {farm : UserFarm} {draft : Draft .v1UserFarm} (prepared : farm.draft = .ok draft) :
    Account.v1UserFarm.key draft = farm.accountAddress := by
  obtain ⟨_, _, prepared⟩ := ok_of_bind prepared
  obtain ⟨_, _, prepared⟩ := ok_of_bind prepared
  obtain ⟨_, _, prepared⟩ := ok_of_bind prepared
  cases prepared
  rfl

/-! ## Positions -/

def obligationClause (account : Option String) : Clause .v1ObligationAccount :=
  .oneOf .account [account]

theorem compile_account (account : Option String) :
    (Matcher.byField "account" [account]).compile .v1ObligationAccount =
      .ok (obligationClause account) := by
  cases account <;> rfl

def eventClause (event : Option String) : Clause .v1LiquidatedPosition :=
  .oneOf .liquidationEventId [event]

theorem compile_event (report : LiquidationReport) :
    report.matcher.compile .v1LiquidatedPosition = .ok (eventClause report.liquidationEventId) := by
  unfold LiquidationReport.matcher
  cases report.liquidationEventId <;> rfl

theorem eventClause_holds {event : Option String} {row : Row .v1LiquidatedPosition} :
    (eventClause event).holds row = true ↔ event = some (row .liquidationEventId : String) := by
  have opened : (eventClause event).holds row = true ↔
      some (row .liquidationEventId : String) = event := by
    cases event <;> simp [eventClause, Clause.holds, Row.has, Row.text?, Kind.asText?]
  rw [opened, eq_comm]

theorem obligationClause_covers (account : Option String) :
    (obligationClause account).Covers (account.map .name) := by
  intro row own same theirs
  obtain ⟨text, rfl, rfl⟩ := Option.map_eq_some_iff.1 same
  simpa [Row.naturalKey?, obligationClause, Clause.holds, Row.has, Row.text?, Kind.asText?]
    using theirs

theorem eventClause_covers (event : Option String) :
    (eventClause event).Covers (event.map .name) := by
  intro row own same theirs
  obtain ⟨text, rfl, rfl⟩ := Option.map_eq_some_iff.1 same
  rw [eventClause_holds]
  simpa [Row.naturalKey?, eq_comm] using theirs

theorem keyed_obligation {account : Option String} {draft : Draft .v1ObligationAccount}
    {refusal : Row .v1ObligationAccount → Refusal} (given : draft .account = account) :
    Keyed (obligationClause account) (.ok draft)
      (fun row => ⟨[], .error (.refused (refusal row))⟩) (account.map .name) where
  covers := obligationClause_covers account
  names draft' row drafted filled := by
    cases drafted
    have value : draft .account = some (row .account) := Entries.value?_of_fill filled .account
    rw [← given, value]
    rfl
  keeps old revision decided := by cases decided
  createFree := .ok draft
  reviseFree _ := .error rfl

theorem keyed_liquidation (report : LiquidationReport) :
    Keyed (eventClause report.liquidationEventId) (.ok report.draft) (fun _ => report.revise)
      (report.liquidationEventId.map .name) where
  covers := eventClause_covers _
  names draft row drafted filled := by
    cases drafted
    have value : report.liquidationEventId = some (row .liquidationEventId) :=
      Entries.value?_of_fill filled .liquidationEventId
    rw [value]
    rfl
  keeps old revision decided := by
    unfold LiquidationReport.revise at decided
    split at decided
    · cases decided
    · cases decided
      simp [LiquidationReport.closing]
  createFree := .ok report.draft
  reviseFree _ := by
    unfold LiquidationReport.revise
    split
    · exact .error rfl
    · exact .ok _

end FarmLedger
