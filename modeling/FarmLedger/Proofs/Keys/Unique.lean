/-
# FarmLedger.Proofs.Keys.Unique — one row for each natural key

The keys of a table are guarded twice: a put looks for the row that it is about (`Call.lookup?`),
and the database refuses a second row with the same key. `keys_hold` says that the first never
leaves it to the second. Whatever run came before, a put does not fail because a key is taken: if
its lookup finds nothing, no row has the key that it is about to write, and if it finds a row, that
row keeps the columns of its keys.

Every put that looks for a row is an upsert that is `Keyed`, so all of them come down to one lemma
about upserts (`Keyed.putsBy`); the others write to tables without keys.
-/
import FarmLedger.Proofs.Keys.Puts
import FarmLedger.Proofs.Ledger.Undone

namespace FarmLedger

open FarmLedger.Time

/-! ## Lookups -/

/-- What a put looks for, and the key that it writes if there is nothing. -/
structure Lookup where
  entity : Entity
  matcher : Matcher
  key : Option NaturalKey

def Lookup.find (lookup : Lookup) (database : Database) :
    Except Failure (List (Stored lookup.entity)) :=
  Query.rows { criterion := .matcher lookup.matcher } none database

def Account.lookup (account : Account) (key : Option String) : Lookup :=
  ⟨account.entity, .byField account.keyField [key], key.map .name⟩

namespace Call

def isPut : Call → Bool
  | delete _ _ | read _ _ _ | readByLtv _ | readPage _ _ _ _ | readPricePage _ _ _ _ _ _
    | readPairs _ => false
  | _ => true

/-- The row that a put is about, for puts that may change one. -/
def lookup? : Call → Option Lookup
  | putTokenPrice sample =>
    some ⟨.tokenPrice, priceMatcher sample.platform sample.asset,
      some (priceKey sample.platform sample.asset)⟩
  | putInterestRate sample =>
    some ⟨.interestRateMovingAverage, rateMatcher sample.folded.name,
      some (.name sample.folded.name)⟩
  | putAccount account draft => some (account.lookup (account.key draft))
  | putVault state => some (Account.vault.lookup state.accountAddress)
  | putSplit split => some (Account.lendingOptimizerDistribution.lookup split.vaultName)
  | putUserFarm farm => some (Account.v1UserFarm.lookup farm.accountAddress)
  | registerObligation account _ =>
    some ⟨.v1ObligationAccount, .byField "account" [account], account.map .name⟩
  | putLiquidation report =>
    some ⟨.v1LiquidatedPosition, report.matcher, report.liquidationEventId.map .name⟩
  | _ => none

end Call

/-! ## Outcomes of puts -/

variable {α β : Type} {e : Entity} {clause : Clause e} {key : Option NaturalKey}
  {before after database : Database} {settings : Settings} {now : Timestamp}

/-- The put does not run into a taken key, and its row goes where the clause and the key say. -/
structure PutsBy (clause : Clause e) (key : Option NaturalKey) (before : Database)
    (outcome : Outcome α) : Prop where
  free : NoClash outcome.result
  placed : ∀ value, outcome.result = .ok value → Placed clause key before outcome.database

theorem PutsBy.map {outcome : Outcome α} (puts : PutsBy clause key before outcome) (f : α → β) :
    PutsBy clause key before (outcome.map f) := by
  refine ⟨puts.free.map f, ?_⟩
  intro value done
  obtain ⟨given, answered, _⟩ := ok_of_map done
  exact puts.placed given answered

/-- **An upsert that is keyed puts by its key.** -/
theorem Keyed.putsBy {criterion : Criterion} {create : Except Failure (Draft e)}
    {revise : Row e → Revising e} (keyed : Keyed clause create revise key)
    (compiled : criterion.compile e = .ok clause) (checked : clause.check false = .ok ())
    (onePerKey : OnePerKey (database.rows e)) :
    PutsBy clause key database
      (transact (do let _ ← upsert e criterion create revise : Transaction Unit) database) := by
  constructor
  · have free : (upsert e criterion create revise).ClashFree ⟨database, []⟩ :=
      keyed.clashFree compiled checked onePerKey
    exact noClash_transact
      (Transaction.clashFree_bind free fun _ _ _ => Transaction.clashFree_pure _)
  · intro value done
    obtain ⟨after, ran, reached⟩ := transact_ok done
    obtain ⟨_, middle, ran, last⟩ := Transaction.ran_bind ran
    obtain ⟨_, rfl⟩ := Transaction.ran_pure last
    obtain ⟨clause', compiled', upserts⟩ := Transaction.ran_upsert ran
    obtain rfl : clause = clause' := Except.ok.inj (compiled.symm.trans compiled')
    rw [reached]
    exact keyed.placed upserts

theorem putsBy_attempt {given : Except Failure β} {work : β → Transaction α}
    (free : NoClash given)
    (each : ∀ b, given = .ok b → PutsBy clause key database (transact (work b) database)) :
    PutsBy clause key database (attempt (given.map work) database) := by
  cases given with
  | error failure =>
    refine ⟨.error (free failure rfl), ?_⟩
    intro value done
    cases done
  | ok b => exact each b rfl

theorem putsBy_price (sample : PriceSample) (onePerKey : OnePerKey (database.rows .tokenPrice)) :
    PutsBy (priceClause sample.platform sample.asset)
      (some (priceKey sample.platform sample.asset)) database
      (recordPrice settings now sample database) := by
  refine putsBy_attempt (noClash_ofSetting _) fun guard _ => ?_
  exact (keyed_price sample guard now settings.windowLength).putsBy
    (compile_priceMatcher _ _) (check_priceClause _ _) onePerKey

/-- The log of rates is written before, but it is another table. -/
theorem putsBy_rate (sample : RateSample)
    (onePerKey : OnePerKey (database.rows .interestRateMovingAverage)) :
    PutsBy (rateClause sample.folded.name) (some (.name sample.folded.name)) database
      (recordRate settings now sample database) := by
  have keyed := keyed_rate sample now settings.windowLength
  constructor
  · refine noClash_transact (Transaction.clashFree_bind ?_ fun _ middle ran => ?_)
    · exact Transaction.clashFree_insert (noClash_insert fun _ _ _ _ => rfl)
    · rw [← Database.rows_congr (Transaction.spares_insert _ (by decide) ran)] at onePerKey
      exact Transaction.clashFree_bind (keyed.clashFree (compile_rateMatcher _) rfl onePerKey)
        fun _ _ _ => Transaction.clashFree_pure _
  · intro value done
    obtain ⟨rates, rate, upserted, _, _, upserts⟩ := recordRate_ran done
    have averages : (database.put .interestRate (rates.append rate)) .interestRateMovingAverage =
        database .interestRateMovingAverage := Database.put_other _ (by decide)
    cases keyed.placed upserts with
    | added stands fresh named next => exact .added (averages ▸ stands) fresh named next
    | changed stands found keeps next => exact .changed (averages ▸ stands) found keeps next

theorem putsBy_account (account : Account) (draft : Draft account.entity)
    (onePerKey : OnePerKey (database.rows account.entity)) :
    PutsBy (account.keyClause (account.key draft)) ((account.key draft).map .name) database
      (transact (putAccount account draft) database) :=
  (keyed_account account draft).putsBy (account.compile_key _) rfl onePerKey

theorem putsBy_prepared (account : Account) {given : Except Failure (Draft account.entity)}
    {handed : Option String} (free : NoClash given)
    (named : ∀ draft, given = .ok draft → account.key draft = handed)
    (onePerKey : OnePerKey (database.rows account.entity)) :
    PutsBy (account.keyClause handed) (handed.map .name) database
      (attempt (putPrepared account given) database) := by
  refine putsBy_attempt free fun draft prepared => ?_
  rw [← named draft prepared]
  exact putsBy_account account draft onePerKey

theorem putsBy_obligation (account authority : Option String)
    (onePerKey : OnePerKey (database.rows .v1ObligationAccount)) :
    PutsBy (obligationClause account) (account.map .name) database
      (transact (registerObligation account authority) database) := by
  have compiled : (Criterion.matcher (.byField "account" [account])).compile
      .v1ObligationAccount = .ok (obligationClause account) := compile_account account
  unfold registerObligation
  refine (keyed_obligation ?_).putsBy compiled rfl onePerKey
  rfl

/-- **A put that looks for a row puts by its key.** -/
theorem Call.putsBy {call : Call} {lookup : Lookup} (looks : call.lookup? = some lookup)
    (onePerKey : OnePerKey (database.rows lookup.entity)) :
    ∃ clause, lookup.matcher.compile lookup.entity = .ok clause ∧ clause.Covers lookup.key ∧
      PutsBy clause lookup.key database (call.perform settings now database) := by
  cases call with
  | putTokenPrice sample =>
    cases looks
    exact ⟨_, compile_priceMatcher _ _, priceClause_covers _ _,
      (putsBy_price sample onePerKey).map _⟩
  | putInterestRate sample =>
    cases looks
    exact ⟨_, compile_rateMatcher _, rateClause_covers sample,
      (putsBy_rate sample onePerKey).map _⟩
  | putAccount account draft =>
    cases looks
    exact ⟨_, account.compile_key _, account.keyClause_covers _,
      (putsBy_account account draft onePerKey).map _⟩
  | putVault state =>
    cases looks
    exact ⟨_, Account.vault.compile_key _, Account.vault.keyClause_covers _,
      (putsBy_prepared .vault (noClash_vault state) (fun _ => key_vault) onePerKey).map _⟩
  | putSplit split =>
    cases looks
    exact ⟨_, Account.lendingOptimizerDistribution.compile_key _,
      Account.lendingOptimizerDistribution.keyClause_covers _,
      (putsBy_prepared .lendingOptimizerDistribution (noClash_split split) (fun _ => key_split)
        onePerKey).map _⟩
  | putUserFarm farm =>
    cases looks
    exact ⟨_, Account.v1UserFarm.compile_key _, Account.v1UserFarm.keyClause_covers _,
      (putsBy_prepared .v1UserFarm (noClash_farm farm) (fun _ => key_farm) onePerKey).map _⟩
  | registerObligation account authority =>
    cases looks
    exact ⟨_, compile_account account, obligationClause_covers account,
      (putsBy_obligation account authority onePerKey).map _⟩
  | putLiquidation report =>
    cases looks
    have compiled : (Criterion.matcher report.matcher).compile .v1LiquidatedPosition =
        .ok (eventClause report.liquidationEventId) := compile_event report
    exact ⟨_, compile_event report, eventClause_covers _,
      ((keyed_liquidation report).putsBy compiled rfl onePerKey).map _⟩
  | _ => cases looks

/-! ## Puts without a lookup -/

/-- Where there are no keys, none is taken. -/
theorem noClash_append {draft : Draft e} (keyless : e.schema.keys = []) :
    NoClash (transact (append e draft) database).result := by
  refine noClash_transact (Transaction.clashFree_bind ?_ fun _ _ _ => Transaction.clashFree_pure _)
  refine Transaction.clashFree_insert (noClash_insert fun table row _ _ => ?_)
  unfold Row.checkKeys
  rw [keyless]
  rfl

theorem noClash_curve (sample : CurveSample) :
    NoClash (attempt (putCurve sample) database).result := by
  have upper_ (text : Option String) : NoClash (upperOf text) := by
    unfold upperOf
    split
    · exact .ok _
    · exact .error rfl
  have draft : NoClash sample.draft :=
    .bind (upper_ _) fun _ _ => .bind (upper_ _) fun _ _ => .ok _
  unfold putCurve
  cases prepared : sample.draft with
  | error failure => exact .error (draft failure prepared)
  | ok given => exact noClash_append rfl

theorem noClash_staking (sample : StakingSample) :
    NoClash (attempt (putStakingAnalytic sample) database).result := by
  unfold putStakingAnalytic
  split
  · exact .error rfl
  · next price _ =>
    by_cases wide : price < 0 ∨ maxExactPrice < price
    · rw [if_pos wide]
      exact .error rfl
    · rw [if_neg wide]
      exact noClash_append rfl

/-- **No put runs into a taken key**, where no two rows had one before. -/
theorem Call.noClash {call : Call} (put : call.isPut = true)
    (onePerKey : ∀ e, OnePerKey (database.rows e)) :
    NoClash (call.perform settings now database).result := by
  cases looks : call.lookup? with
  | some lookup =>
    obtain ⟨_, _, _, puts⟩ := Call.putsBy looks (onePerKey lookup.entity)
    exact puts.free
  | none =>
    cases call with
    | putInterestRateCurve sample => exact (noClash_curve sample).map _
    | putStakingAnalytic sample => exact (noClash_staking sample).map _
    | putSample log draft =>
      exact NoClash.map (noClash_append (by cases log <;> rfl)) _
    | delete _ _ | read _ _ _ | readByLtv _ | readPage _ _ _ _ | readPricePage _ _ _ _ _ _
      | readPairs _ => cases put
    | _ => cases looks

/-! ## Keys that stay -/

/-- A row that is placed leaves the rows under other ids, and keeps the keys of its own. -/
theorem Placed.keepsKeys (placed : Placed clause key before after) {old new : Stored e}
    (oldMem : old ∈ before.rows e) (newMem : new ∈ after.rows e) (same : new.id = old.id) :
    new.row.KeepsKeys old.row := by
  have unchanged (mem : new ∈ before.rows e) : new.row.KeepsKeys old.row := by
    rw [Database.eq_of_id mem oldMem same]
    exact fun _ _ _ _ => rfl
  cases placed with
  | @added table row stands _ _ next =>
    rw [Database.rows_of_table next] at newMem
    rw [Database.rows_of_table stands] at oldMem unchanged
    rcases Table.mem_append.1 newMem with mem | rfl
    · exact unchanged mem
    · have less := table.lt_nextId old.id (List.mem_map_of_mem oldMem)
      exact absurd same (Nat.ne_of_gt less)
  | @changed table stored row stands found keeps next =>
    rw [Database.rows_of_table next] at newMem
    rw [Database.rows_of_table stands] at oldMem unchanged
    rcases Table.mem_replace newMem with ⟨_, mem⟩ | rfl
    · exact unchanged mem
    · have storedMem := List.mem_of_mem_filter (List.mem_of_mem_head? found)
      rw [Table.eq_of_id oldMem storedMem same.symm]
      exact keeps

/-- Only puts with a lookup write to tables with keys. -/
theorem Call.lookup_of_writes {call : Call} (put : call.isPut = true) (written : e ∈ call.writes)
    (keyed : e.schema.keys ≠ []) : ∃ lookup, call.lookup? = some lookup ∧ lookup.entity = e := by
  cases call with
  | putInterestRate sample =>
    rcases List.mem_cons.1 written with rfl | average
    · exact absurd rfl keyed
    · exact ⟨_, rfl, (List.mem_singleton.1 average).symm⟩
  | putSample log draft =>
    obtain rfl := List.mem_singleton.1 written
    cases log <;> exact absurd rfl keyed
  | putInterestRateCurve sample =>
    obtain rfl := List.mem_singleton.1 written
    exact absurd rfl keyed
  | putStakingAnalytic sample =>
    obtain rfl := List.mem_singleton.1 written
    exact absurd rfl keyed
  | putTokenPrice _ | putAccount _ _ | putVault _ | putSplit _ | putUserFarm _
    | registerObligation _ _ | putLiquidation _ =>
    exact ⟨_, rfl, (List.mem_singleton.1 written).symm⟩
  | _ => cases put

/-- **A put does not change the columns of keys.** -/
theorem Call.keepsKeys {call : Call} (put : call.isPut = true)
    (onePerKey : ∀ e, OnePerKey (database.rows e)) {old new : Stored e}
    (oldMem : old ∈ database.rows e)
    (newMem : new ∈ (call.perform settings now database).database.rows e)
    (same : new.id = old.id) : new.row.KeepsKeys old.row := by
  by_cases keyless : e.schema.keys = []
  · intro part mem
    rw [keyless] at mem
    cases mem
  by_cases written : e ∈ call.writes
  · obtain ⟨lookup, looks, rfl⟩ := Call.lookup_of_writes put written keyless
    obtain ⟨_, _, _, puts⟩ := Call.putsBy looks (onePerKey lookup.entity)
    cases answered : (call.perform settings now database).result with
    | ok answer => exact (puts.placed answer answered).keepsKeys oldMem newMem same
    | error failure =>
      rw [call.perform_undoes settings now database failure answered] at newMem
      rw [Database.eq_of_id newMem oldMem same]
      exact fun _ _ _ _ => rfl
  · rw [Database.rows_congr (Call.perform_other written)] at newMem
    rw [Database.eq_of_id newMem oldMem same]
    exact fun _ _ _ _ => rfl

/-! ## What a lookup decides -/

/-- The lookup covers the key: if it finds nothing, no row has the key. -/
theorem Clause.Covers.of_nothing {table : Table e} (covers : clause.Covers key)
    (nothing : table.select clause = []) {stored : Stored e} (mem : stored ∈ table.rows)
    {own : NaturalKey} (ours : key = some own) : stored.row.naturalKey? ≠ some own := by
  intro theirs
  exact List.filter_eq_nil_iff.1 nothing stored mem (covers stored.row own ours theirs)

/-- A put by the lookup: a row with the key is new, if nothing was found, and otherwise all rows
keep their ids. -/
def Lookup.Decides (lookup : Lookup) (found : List (Stored lookup.entity))
    (before after : Database) : Prop :=
  if found.isEmpty then
    ∃ stored, after.rows lookup.entity = before.rows lookup.entity ++ [stored] ∧
      stored.row.naturalKey? = lookup.key
  else
    (after.rows lookup.entity).map Stored.id = (before.rows lookup.entity).map Stored.id

theorem Lookup.decides {lookup : Lookup} {clause : Clause lookup.entity}
    {found : List (Stored lookup.entity)}
    (compiled : lookup.matcher.compile lookup.entity = .ok clause)
    (asked : lookup.find before = .ok found) (placed : Placed clause lookup.key before after) :
    lookup.Decides found before after := by
  obtain ⟨clause', table', compiled', stands', rfl⟩ := Database.read_ok asked
  obtain rfl : clause = clause' := Except.ok.inj (compiled.symm.trans compiled')
  unfold Decides
  cases placed with
  | @added table row stands fresh named next =>
    obtain rfl : table = table' := Option.some.inj (stands.symm.trans stands')
    rw [fresh, List.isEmpty_nil, if_pos rfl, Database.rows_of_table next,
      Database.rows_of_table stands]
    exact ⟨⟨table.nextId, row⟩, rfl, named⟩
  | @changed table stored row stands first keeps next =>
    obtain rfl : table = table' := Option.some.inj (stands.symm.trans stands')
    have some_ : (table.select clause).isEmpty = false :=
      List.isEmpty_eq_false_iff_exists_mem.2 ⟨stored, List.mem_of_mem_head? first⟩
    rw [some_, if_neg Bool.false_ne_true, Database.rows_of_table next,
      Database.rows_of_table stands]
    exact table.ids_replace stored.id row

/-! ## Runs -/

/-- What holds of a call on a ledger as far as keys are concerned. -/
structure Call.KeysHold (call : Call) (ledger : Ledger) : Prop where
  /-- The call does not fail because a key is taken. -/
  free : ∀ table columns,
    (ledger.step (.call call)).2.result ≠ .error (.duplicateKey table columns)
  /-- Where the lookup finds nothing, no row has the key that it is for. -/
  covers : ∀ lookup, call.lookup? = some lookup → lookup.find ledger.database = .ok [] →
    ∀ stored ∈ ledger.database.rows lookup.entity, ∀ own, lookup.key = some own →
      stored.row.naturalKey? ≠ some own
  /-- A call that is done adds a row with this key, or no row at all, as the lookup says. -/
  decides : ∀ lookup found, call.lookup? = some lookup →
    lookup.find ledger.database = .ok found →
    (ledger.step (.call call)).2.result = .ok .done →
      lookup.Decides found ledger.database (ledger.step (.call call)).1.database
  /-- The columns of keys do not change. -/
  keeps : ∀ e, ∀ old ∈ ledger.database.rows e,
    ∀ new ∈ (ledger.step (.call call)).1.database.rows e, new.id = old.id →
      new.row.KeepsKeys old.row
  /-- Afterwards no two rows of an entity have one natural key. -/
  unique : ∀ e, OnePerKey ((ledger.step (.call call)).1.database.rows e)

/-- **One row for each natural key.** After any run from empty tables a put finds the row with its
key if there is one, adds one if there is none, and never runs into a key that is taken. No put
changes the columns of keys, and no two rows of an entity ever have one natural key. -/
theorem keys_hold {ledger : Ledger} {steps : List Step} {call : Call}
    (fresh : ledger.database = Database.fresh)
    (allowed : ∀ step ∈ steps, step.isRequest = true) (put : call.isPut = true) :
    call.KeysHold (ledger.run steps).1 := by
  have sound (e : Entity) : Sound ((ledger.run steps).1.database.rows e) := by
    refine run_sound allowed ?_
    rw [fresh]
    exact Database.rows_fresh e
  generalize (ledger.run steps).1 = reached at sound
  have onePerKey (e : Entity) : OnePerKey (reached.database.rows e) := (sound e).onePerKey
  constructor
  · intro table columns clash
    have free := Call.noClash put onePerKey _ clash
    cases free
  · intro lookup looks nothing stored mem own ours
    obtain ⟨clause, compiled, covers, _⟩ :=
      @Call.putsBy _ reached.settings reached.clock _ _ looks (onePerKey lookup.entity)
    obtain ⟨clause', table, compiled', stands, none_⟩ := Database.read_ok nothing
    obtain rfl : clause = clause' := Except.ok.inj (compiled.symm.trans compiled')
    rw [Database.rows_of_table stands] at mem
    exact covers.of_nothing none_.symm mem ours
  · intro lookup found looks asked done
    obtain ⟨clause, compiled, _, puts⟩ := Call.putsBy looks (onePerKey lookup.entity)
    exact lookup.decides compiled asked (puts.placed _ done)
  · intro e old oldMem new newMem same
    exact Call.keepsKeys put onePerKey oldMem newMem same
  · intro e
    exact (call.perform_keeps (stable_sound e) (sound e)).onePerKey

/-- The price of a pool without a venue. -/
def poolPrice : List Step := [
  .call (.putTokenPrice ⟨"LP-RAY-USDC", "NA", 1.0, 0.0, 0.0, some "mint"⟩)]

/-- A price from a venue whose identifier is that of the pool does not run into its row. -/
theorem poolPrice_keysHold :
    ((emptyLedger.run poolPrice).1.database.rows .tokenPrice).length = 1 ∧
      (Call.putTokenPrice ⟨"USDC", "NA-RAY", 1.1, 0.0, 0.0, some "mint"⟩).KeysHold
        (emptyLedger.run poolPrice).1 :=
  ⟨by decide +kernel, keys_hold rfl (by simp [poolPrice, Step.isRequest]) rfl⟩

end FarmLedger
