/-
# FarmLedger.Proofs.Ledger.Stable — what every write keeps, every call keeps

Whatever a call has in mind, it only ever writes a row, changes one or takes some out. A property
of databases that these three keep (`Stable`) is therefore kept by every transaction that is made
of them (`Transaction.Keeps`), by every call (`Call.perform_keeps`) and by every run
(`Ledger.run_keeps`). What the database itself watches over is proved this way, without a look at
what the calls are for.
-/
import FarmLedger.Proofs.Ledger.Requests

namespace FarmLedger

open FarmLedger.Time

variable {α β : Type} {e : Entity} {P : Database → Prop} {database : Database}

/-- Every single write keeps the property. -/
structure Stable (P : Database → Prop) : Prop where
  insert {e : Entity} {database next : Database} {draft : Draft e} {id : Nat}
    (inserted : database.insert e draft = .ok (next, id)) (holds : P database) : P next
  update {e : Entity} {database next : Database} {stored : Stored e} {revision : Revision e}
    (updated : database.update e stored revision = .ok next) (holds : P database) : P next
  delete {e : Entity} {database next : Database} {ids : List Nat}
    (deleted : database.delete e ids = .ok next) (holds : P database) : P next

/-! ## Transactions -/

namespace Transaction

/-- If the transaction goes through, the property holds afterwards if it held before. -/
def Keeps (work : Transaction α) (P : Database → Prop) : Prop :=
  ∀ {before value after}, work.Ran before value after → P before.database → P after.database

theorem keeps_pure (value : α) : (pure value : Transaction α).Keeps P := by
  intro _ _ _ ran holds
  rw [(ran_pure ran).2]
  exact holds

theorem keeps_bind {first : Transaction α} {rest : α → Transaction β} (h : first.Keeps P)
    (k : ∀ a, (rest a).Keeps P) : (first >>= rest).Keeps P := by
  intro _ _ _ ran holds
  obtain ⟨a, _, reached, following⟩ := ran_bind ran
  exact k a following (h reached holds)

theorem keeps_read (question : Database → Except Failure α) : (read question).Keeps P := by
  intro _ _ _ ran holds
  obtain ⟨_, rfl⟩ := ran_ofExcept (ran_get ran)
  exact holds

theorem keeps_insert (stable : Stable P) (draft : Draft e) : (insert e draft).Keeps P := by
  intro _ _ _ ran holds
  obtain ⟨⟨next, _⟩, inserted, following⟩ := ran_fetch (ran_get ran)
  obtain ⟨_, _, put, last⟩ := ran_bind following
  obtain ⟨rfl, rfl⟩ := ran_pure last
  rw [ran_set put]
  exact stable.insert inserted holds

theorem keeps_update (stable : Stable P) (stored : Stored e) (revision : Revision e) :
    (update e stored revision).Keeps P := by
  intro _ _ _ ran holds
  obtain ⟨_, updated, put⟩ := ran_fetch (ran_get ran)
  rw [ran_set put]
  exact stable.update updated holds

theorem keeps_delete (stable : Stable P) (ids : List Nat) : (delete e ids).Keeps P := by
  intro _ _ _ ran holds
  obtain ⟨_, deleted, put⟩ := ran_fetch (ran_get ran)
  rw [ran_set put]
  exact stable.delete deleted holds

theorem keeps_log (lines : Journal) : (log lines).Keeps P := by
  intro _ _ _ ran holds
  rw [ran_log ran]
  exact holds

theorem keeps_upsert (stable : Stable P) {criterion : Criterion}
    {create : Except Failure (Draft e)} {revise : Row e → Revising e} :
    (upsert e criterion create revise).Keeps P := by
  intro _ _ _ ran holds
  obtain ⟨_, _, ran⟩ := ran_fetch ran
  obtain ⟨_, _, ran⟩ := ran_fetch ran
  obtain ⟨table, _, ran⟩ := ran_table ran
  split at ran
  · obtain ⟨_, _, ran⟩ := ran_fetch ran
    exact keeps_bind (keeps_insert stable _)
      (fun _ => keeps_bind (keeps_log _) fun _ => keeps_pure _) ran holds
  · obtain ⟨_, _, logged, ran⟩ := ran_bind ran
    obtain ⟨_, _, ran⟩ := ran_fetch ran
    exact keeps_bind (keeps_update stable _ _) (fun _ => keeps_pure _) ran
      (keeps_log _ logged holds)

theorem keeps_removeRows (stable : Stable P) (criterion : Criterion) :
    (removeRows e criterion).Keeps P := by
  intro _ _ _ ran holds
  obtain ⟨rows, _, ran⟩ := ran_read ran
  split at ran
  · cases ran
  · exact keeps_bind (keeps_delete stable _) (fun _ => keeps_pure _) ran holds

theorem keeps_append (stable : Stable P) (draft : Draft e) : (append e draft).Keeps P :=
  keeps_bind (keeps_insert stable draft) fun _ => keeps_pure _

theorem keeps_ignored (stable : Stable P) {criterion : Criterion}
    {create : Except Failure (Draft e)} {revise : Row e → Revising e} :
    (do let _ ← upsert e criterion create revise : Transaction Unit).Keeps P :=
  keeps_bind (keeps_upsert stable) fun _ => keeps_pure _

end Transaction

theorem transact_keeps {work : Transaction α} (keeps : work.Keeps P) (holds : P database) :
    P (transact work database).database := by
  rcases transact_cases work database with ⟨_, after, ran, whole⟩ | ⟨_, _, kept⟩
  · rw [whole]
    exact keeps ran holds
  · rw [kept]
    exact holds

theorem attempt_keeps {work : Except Failure (Transaction α)}
    (keeps : ∀ prepared, work = .ok prepared → prepared.Keeps P) (holds : P database) :
    P (attempt work database).database := by
  cases work with
  | error _ => exact holds
  | ok prepared => exact transact_keeps (keeps prepared rfl) holds

theorem attempt_map_keeps {given : Except Failure β} {work : β → Transaction α}
    (keeps : ∀ b, (work b).Keeps P) (holds : P database) :
    P (attempt (given.map work) database).database := by
  refine attempt_keeps ?_ holds
  intro prepared ready
  obtain ⟨b, _, rfl⟩ := ok_of_map ready
  exact keeps b

theorem ask_keeps (question : Database → Except Failure α) (holds : P database) :
    P (ask question database).database :=
  transact_keeps (Transaction.keeps_read question) holds

/-! ## Calls and runs -/

open Transaction

/-- **A call keeps what every write keeps.** -/
theorem Call.perform_keeps (stable : Stable P) {settings : Settings} {now : Timestamp}
    (call : Call) (holds : P database) : P (call.perform settings now database).database := by
  cases call with
  | putTokenPrice sample => exact attempt_map_keeps (fun _ => keeps_ignored stable) holds
  | putInterestRate sample =>
    exact transact_keeps
      (keeps_bind (keeps_insert stable _) fun _ => keeps_ignored stable) holds
  | putInterestRateCurve sample =>
    exact attempt_map_keeps (fun _ => keeps_append stable _) holds
  | putStakingAnalytic sample =>
    show P (attempt (FarmLedger.putStakingAnalytic sample) database).database
    refine attempt_keeps ?_ holds
    intro prepared ready
    unfold FarmLedger.putStakingAnalytic at ready
    split at ready
    · cases ready
    · split at ready
      · cases ready
      · cases ready
        exact keeps_append stable _
  | putSample log draft => exact transact_keeps (keeps_append stable draft) holds
  | putAccount account draft => exact transact_keeps (keeps_ignored stable) holds
  | putVault state => exact attempt_map_keeps (fun _ => keeps_ignored stable) holds
  | putSplit split => exact attempt_map_keeps (fun _ => keeps_ignored stable) holds
  | putUserFarm farm => exact attempt_map_keeps (fun _ => keeps_ignored stable) holds
  | registerObligation account authority => exact transact_keeps (keeps_ignored stable) holds
  | putLiquidation report => exact transact_keeps (keeps_ignored stable) holds
  | delete e criterion =>
    show P (remove e criterion database).database
    rw [remove_database]
    exact transact_keeps (keeps_removeRows stable criterion) holds
  | read e criterion limit => exact ask_keeps (readRows e criterion limit) holds
  | readByLtv criterion => exact ask_keeps (FarmLedger.readByLtv criterion) holds
  | readPage e criterion number size =>
    exact ask_keeps (FarmLedger.readPage e criterion number size) holds
  | readPricePage criterion start finish number size byTime =>
    exact ask_keeps (FarmLedger.readPricePage criterion start finish number size byTime) holds
  | readPairs criterion => exact ask_keeps (latestPairs criterion) holds

/-- **A run keeps what every write keeps.** -/
theorem Ledger.run_keeps (stable : Stable P) {ledger : Ledger} {steps : List Step}
    (allowed : ∀ step ∈ steps, step.isRequest = true) (holds : P ledger.database) :
    P (ledger.run steps).1.database :=
  run_invariant allowed holds fun request _ holds => request.call.perform_keeps stable holds

/-! ## Tables -/

theorem isSome_put {other : Entity} {table : Table other} (stands : (database e).isSome = true) :
    ((database.put other table) e).isSome = true := by
  by_cases same : other = e
  · subst same
    rw [Database.put_same]
    rfl
  · rw [Database.put_other table same]
    exact stands

/-- No write takes a table away. -/
theorem stable_stands (e : Entity) : Stable fun database => (database e).isSome = true where
  insert inserted stands := by
    obtain ⟨table, row, _, _, rfl, _⟩ := Database.insert_iff.1 inserted
    exact isSome_put stands
  update updated stands := by
    obtain ⟨table, row, _, _, rfl⟩ := Database.update_iff.1 updated
    exact isSome_put stands
  delete deleted stands := by
    obtain ⟨table, _, rfl⟩ := Database.delete_ok deleted
    exact isSome_put stands

/-- After any run there is a table of every entity, if there was one to begin with. -/
theorem run_stands {ledger : Ledger} {steps : List Step}
    (fresh : ledger.database = Database.fresh) (allowed : ∀ step ∈ steps, step.isRequest = true)
    (e : Entity) : ∃ table, (ledger.run steps).1.database e = some table := by
  refine Option.isSome_iff_exists.1 (Ledger.run_keeps (stable_stands e) allowed ?_)
  rw [fresh, Database.fresh_eq]
  rfl

end FarmLedger
