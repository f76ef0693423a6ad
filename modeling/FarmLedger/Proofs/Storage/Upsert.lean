/-
# FarmLedger.Proofs.Storage.Upsert — what an upsert did

`Upserts` lists the two things that an upsert can have done to the tables: it added a row because
nothing matched, or it put another row in the place of the first match. Each comes with all that
the upsert made sure of. `ran_upsert` says that there is nothing else.

Nothing of this reaches another table (`Spares`). Taking rows out is refused where nothing is read
(`remove_refused`), and else counts and erases what is read (`remove_found`); the other rows stay in
their order (`remove_sublist`).
-/
import FarmLedger.Ledger.Reading
import FarmLedger.Storage.Upsert
import FarmLedger.Proofs.Storage.Transaction

namespace FarmLedger

variable {α β : Type} {e other : Entity}

/-- What an upsert by a clause does to the tables. -/
inductive Upserts (clause : Clause e) (create : Except Failure (Draft e))
    (revise : Row e → Revising e) (before : Database) : Upserted → Database → Prop
  | created {table : Table e} {draft : Draft e} {row : Row e}
      (stands : before e = some table) (fresh : table.select clause = [])
      (drafted : create = .ok draft)
      (makes : draft.entries.Makes (table.rows.map Stored.row) row) :
      Upserts clause create revise before ⟨table.nextId, true⟩ (before.put e (table.append row))
  | revised {table : Table e} {stored : Stored e} {revision : Revision e} {row : Row e}
      (stands : before e = some table) (found : (table.select clause).head? = some stored)
      (decided : (revise stored.row).result = .ok revision)
      (makes : (revision.entries stored.row).Makes
        ((table.rows.filter fun other => other.id != stored.id).map Stored.row) row) :
      Upserts clause create revise before ⟨stored.id, false⟩
        (before.put e (table.replace stored.id row))

theorem Upserts.other_table {clause : Clause e} {create : Except Failure (Draft e)}
    {revise : Row e → Revising e} {before after : Database} {upserted : Upserted}
    (upserts : Upserts clause create revise before upserted after) (different : e ≠ other) :
    after other = before other := by
  cases upserts with
  | created => exact Database.put_other _ different
  | revised => exact Database.put_other _ different

namespace Transaction

variable {before after : Session}

/-- **An upsert that goes through adds a row or revises the first match.** -/
theorem ran_upsert {criterion : Criterion} {create : Except Failure (Draft e)}
    {revise : Row e → Revising e} {upserted : Upserted}
    (ran : (upsert e criterion create revise).Ran before upserted after) :
    ∃ clause, criterion.compile e = .ok clause ∧
      Upserts clause create revise before.database upserted after.database := by
  obtain ⟨clause, compiled, ran⟩ := ran_fetch ran
  obtain ⟨_, _, ran⟩ := ran_fetch ran
  obtain ⟨table, stands, ran⟩ := ran_table ran
  refine ⟨clause, compiled, ?_⟩
  cases found : (table.select clause).head? with
  | none =>
    simp only [found] at ran
    obtain ⟨draft, drafted, ran⟩ := ran_fetch ran
    obtain ⟨id, middle, inserted, ran⟩ := ran_bind ran
    obtain ⟨_, logged, log, last⟩ := ran_bind ran
    obtain ⟨rfl, rfl⟩ := ran_pure last
    obtain ⟨table', row, stands', makes, put, rfl⟩ := ran_insert inserted
    obtain rfl : table' = table := Option.some.inj (stands'.symm.trans stands)
    rw [ran_log log, put]
    exact .created stands (List.head?_eq_none_iff.1 found) drafted makes
  | some stored =>
    simp only [found] at ran
    obtain ⟨_, logged, log, ran⟩ := ran_bind ran
    obtain ⟨revision, decided, ran⟩ := ran_fetch ran
    obtain ⟨_, middle, updated, last⟩ := ran_bind ran
    obtain ⟨rfl, rfl⟩ := ran_pure last
    obtain ⟨table', row, stands', makes, put⟩ := ran_update updated
    rw [ran_log log] at stands' put
    obtain rfl : table' = table := Option.some.inj (stands'.symm.trans stands)
    rw [put]
    exact .revised stands found decided makes

/-- **What an upsert can do, it does.** -/
theorem upsert_ran {criterion : Criterion} {clause : Clause e} {create : Except Failure (Draft e)}
    {revise : Row e → Revising e} {upserted : Upserted} {next : Database}
    (compiled : criterion.compile e = .ok clause) (checked : clause.check false = .ok ())
    (upserts : Upserts clause create revise before.database upserted next) :
    ∃ after, (upsert e criterion create revise).Ran before upserted after ∧
      after.database = next := by
  cases upserts with
  | @created table draft row stands fresh drafted makes =>
    have inserted := Database.insert_iff.2 ⟨table, row, stands, makes, rfl, rfl⟩
    refine ⟨⟨before.database.put e (table.append row),
      before.journal ++ [createdLine e table.nextId criterion]⟩, ?_, rfl⟩
    refine bind_ran (ofExcept_ran compiled _) (bind_ran (ofExcept_ran checked _)
      (bind_ran (table_ran stands) ?_))
    rw [fresh]
    exact bind_ran (ofExcept_ran drafted _) (bind_ran (insert_ran inserted)
      (bind_ran (log_ran _ _) (pure_ran _ _)))
  | @revised table stored revision row stands found decided makes =>
    have updated := Database.update_iff.2 ⟨table, row, stands, makes, rfl⟩
    refine ⟨⟨before.database.put e (table.replace stored.id row),
      before.journal ++ (revise stored.row).lines⟩, ?_, rfl⟩
    refine bind_ran (ofExcept_ran compiled _) (bind_ran (ofExcept_ran checked _)
      (bind_ran (table_ran stands) ?_))
    rw [found]
    exact bind_ran (log_ran _ _) (bind_ran (ofExcept_ran decided _)
      (bind_ran (update_ran updated) (pure_ran _ _)))

/-- **An upsert fails as the first match says.** -/
theorem upsert_refused {criterion : Criterion} {clause : Clause e}
    {create : Except Failure (Draft e)} {revise : Row e → Revising e} {table : Table e}
    {stored : Stored e} {failure : Failure} (compiled : criterion.compile e = .ok clause)
    (checked : clause.check false = .ok ()) (stands : before.database e = some table)
    (found : (table.select clause).head? = some stored)
    (refused : (revise stored.row).result = .error failure) :
    ((upsert e criterion create revise).outcome before).1 = .error failure := by
  refine bind_failed (ofExcept_ran compiled _) (bind_failed (ofExcept_ran checked _)
    (bind_failed (table_ran stands) ?_))
  rw [found]
  exact bind_failed (log_ran _ _) (fetch_failed refused)

/-! ## Other tables -/

/-- The transaction leaves the table of an entity as it is. -/
def Spares (work : Transaction α) (e : Entity) : Prop :=
  ∀ {before value after}, work.Ran before value after → after.database e = before.database e

theorem spares_pure (value : α) : (pure value : Transaction α).Spares e := by
  intro _ _ _ ran
  rw [(ran_pure ran).2]

theorem spares_bind {first : Transaction α} {rest : α → Transaction β} (h : first.Spares e)
    (k : ∀ a, (rest a).Spares e) : (first >>= rest).Spares e := by
  intro _ _ _ ran
  obtain ⟨a, _, reached, following⟩ := ran_bind ran
  rw [k a following, h reached]

theorem spares_insert (draft : Draft other) (different : other ≠ e) :
    (insert other draft).Spares e := by
  intro _ _ _ ran
  obtain ⟨_, _, _, _, put, _⟩ := ran_insert ran
  rw [put, Database.put_other _ different]

theorem spares_upsert {criterion : Criterion} {create : Except Failure (Draft other)}
    {revise : Row other → Revising other} (different : other ≠ e) :
    (upsert other criterion create revise).Spares e := by
  intro _ _ _ ran
  obtain ⟨_, _, upserts⟩ := ran_upsert ran
  exact upserts.other_table different

/-! ## Taking rows out -/

theorem ran_removeRows {criterion : Criterion} {count : Nat}
    (ran : (removeRows e criterion).Ran before count after) :
    ∃ table selects, before.database e = some table ∧
      after.database = before.database.put e (table.erase selects) := by
  obtain ⟨rows, _, ran⟩ := ran_read ran
  split at ran
  · cases ran
  · obtain ⟨_, _, deleted, last⟩ := ran_bind ran
    obtain ⟨_, rfl⟩ := ran_pure last
    obtain ⟨table, stands, put⟩ := ran_delete deleted
    exact ⟨table, _, stands, put⟩

end Transaction

theorem remove_database (criterion : Criterion) (database : Database) :
    (remove e criterion database).database =
      (transact (removeRows e criterion) database).database := by
  simp only [remove]
  split <;> rfl

theorem remove_result (criterion : Criterion) (database : Database) :
    (remove e criterion database).result =
      (transact (removeRows e criterion) database).result := by
  simp only [remove]
  split <;> rfl

section Removing

variable {criterion : Criterion} {database : Database} {found : List (Stored e)}

/-- Where the criterion reads nothing, nothing can be taken out. -/
theorem remove_refused
    (asked : Query.rows ({ criterion } : Query e) none database = .ok []) :
    (remove e criterion database).result = .error (.refused
      ⟨.notFound, e.table, "no rows matched delete", some criterion.describe⟩) := by
  rw [remove_result]
  refine transact_failed ?_
  exact Transaction.bind_failed (Transaction.read_ran asked) rfl

/-- What the criterion reads is counted and taken out. -/
theorem remove_found (asked : Query.rows ({ criterion } : Query e) none database = .ok found)
    (some_ : found ≠ []) :
    ∃ table, database e = some table ∧
      (remove e criterion database).result = .ok found.length ∧
      (remove e criterion database).database = database.put e
        (table.erase fun stored => (found.map Stored.id).contains stored.id) := by
  rw [remove_result, remove_database]
  obtain ⟨_, table, _, stands, _⟩ := Database.read_ok asked
  cases found with
  | nil => exact absurd rfl some_
  | cons first rest =>
    have ran : (removeRows e criterion).Ran ⟨database, []⟩ (first :: rest).length _ :=
      Transaction.bind_ran (Transaction.read_ran asked)
        (Transaction.bind_ran (Transaction.delete_ran stands) (Transaction.pure_ran _ _))
    exact ⟨table, stands, by rw [transact_ran ran], by rw [transact_ran ran]⟩

/-- A failed removal changes nothing. -/
theorem remove_error {failure : Failure}
    (failed : (remove e criterion database).result = .error failure) :
    (remove e criterion database).database = database := by
  rw [remove_result] at failed
  rw [remove_database, transact_error failed]

/-- Where the criterion cannot be read by, nothing is taken out. -/
theorem remove_failed {failure : Failure}
    (asked : Query.rows ({ criterion } : Query e) none database = .error failure) :
    (remove e criterion database).result = .error failure := by
  rw [remove_result]
  exact transact_failed (Transaction.first_failed (Transaction.read_failed asked))

/-- **Taking rows out takes out what the criterion reads.** -/
theorem mem_removed {stored : Stored e}
    (asked : Query.rows ({ criterion } : Query e) none database = .ok found) :
    stored ∈ (remove e criterion database).database.rows e ↔
      stored ∈ database.rows e ∧ stored ∉ found := by
  by_cases none_ : found = []
  · subst none_
    rw [remove_error (remove_refused asked)]
    simp
  · obtain ⟨table, stands, _, removed⟩ := remove_found asked none_
    have within : found ⊆ table.rows := Database.rows_of_table stands ▸ Database.read_subset asked
    rw [removed, Database.rows_put, Database.rows_of_table stands, Table.mem_erase within]

end Removing

/-- Erased by the ids of the rows that a clause selects, a table keeps the rows that it does not
select. -/
theorem Table.erase_select (table : Table e) (clause : Clause e) :
    (table.erase fun stored => ((table.select clause).map Stored.id).contains stored.id).rows =
      table.rows.filter fun stored => !clause.holds stored.row := by
  refine List.filter_congr fun stored mem => congrArg not ?_
  rw [Bool.eq_iff_iff, List.contains_iff_mem]
  constructor
  · intro listed
    obtain ⟨other, selected, id⟩ := List.mem_map.1 listed
    obtain ⟨otherMem, holds⟩ := List.mem_filter.1 selected
    exact eq_of_id otherMem mem id ▸ holds
  · exact fun holds => List.mem_map_of_mem (List.mem_filter.2 ⟨mem, holds⟩)

/-- **Taking rows out keeps the others and their order.** -/
theorem remove_sublist (criterion : Criterion) (database : Database) :
    ((remove e criterion database).database.rows e).Sublist (database.rows e) := by
  rw [remove_database]
  rcases transact_cases (removeRows e criterion) database with
    ⟨_, after, ran, whole⟩ | ⟨_, _, kept⟩
  · obtain ⟨table, selects, stands, put⟩ := Transaction.ran_removeRows ran
    rw [whole, put, Database.rows_put, Database.rows_of_table stands]
    exact List.filter_sublist
  · rw [kept]

theorem remove_other (criterion : Criterion) (database : Database) (different : other ≠ e) :
    (remove other criterion database).database e = database e := by
  rw [remove_database]
  rcases transact_cases (removeRows other criterion) database with
    ⟨_, after, ran, whole⟩ | ⟨_, _, kept⟩
  · obtain ⟨table, selects, _, put⟩ := Transaction.ran_removeRows ran
    rw [whole, put, Database.put_other _ different]
  · rw [kept]

end FarmLedger
