/-
# FarmLedger.Proofs.Storage.Transaction — transactions that go through

`work.Ran before value after` says that a transaction goes through: it gives the value, and leaves
the session as `after`. A run of two parts is a run of each (`ran_bind`), and every step that a
transaction may take has a lemma that says what it did to the session, so that a run is taken
apart step by step. A transaction that does not go through leaves no trace in the database
(`transact_cases`).

A write shows in one table only. `Entries.Makes` is what a written row has passed, `insert_iff`,
`update_iff` and `delete_ok` say what the table is afterwards, and `put_other` that no other table
is touched.
-/
import FarmLedger.Proofs.Except
import FarmLedger.Storage.Query
import Mathlib.Data.List.Nodup

namespace FarmLedger

variable {α β : Type}

/-! ## Tables -/

variable {e other : Entity}

/-- The entries make a row, and it may stand beside the others. -/
structure Entries.Makes (entries : Entries e) (others : List (Row e)) (row : Row e) : Prop where
  stamps : entries.checkStamps = .ok ()
  widths : entries.checkWidths = .ok ()
  filled : entries.fill = .ok row
  conditions : row.checkConditions = .ok ()
  keys : row.checkKeys others = .ok ()

namespace Table

variable {table : Table e}

/-- Ids tell the rows of a table apart. -/
theorem eq_of_id {a b : Stored e} (ha : a ∈ table.rows) (hb : b ∈ table.rows)
    (same : a.id = b.id) : a = b := by
  have distinct : (table.rows.map Stored.id).Nodup :=
    table.ascending.imp fun less => Nat.ne_of_lt less
  exact List.inj_on_of_nodup_map distinct ha hb same

/-- What a clause selects is given by ascending id. -/
theorem ids_select (table : Table e) (clause : Clause e) :
    ((table.select clause).map Stored.id).Pairwise (· < ·) :=
  table.ascending.sublist (List.filter_sublist.map Stored.id)

theorem mem_append {stored : Stored e} {row : Row e} :
    stored ∈ (table.append row).rows ↔ stored ∈ table.rows ∨ stored = ⟨table.nextId, row⟩ := by
  simp [append]

/-- The rows under another id stay, and the row under the id is the new one. -/
theorem mem_replace {stored : Stored e} {id : Nat} {row : Row e}
    (mem : stored ∈ (table.replace id row).rows) :
    stored.id ≠ id ∧ stored ∈ table.rows ∨ stored = ⟨id, row⟩ := by
  obtain ⟨old, oldMem, rfl⟩ := List.mem_map.1 mem
  by_cases same : old.id = id
  · exact .inr (if_pos same)
  · rw [if_neg same]
    exact .inl ⟨same, oldMem⟩

theorem mem_replace_self {first : Stored e} (row : Row e) (mem : first ∈ table.rows) :
    ⟨first.id, row⟩ ∈ (table.replace first.id row).rows :=
  List.mem_map.2 ⟨first, mem, if_pos rfl⟩

theorem mem_replace_other {stored : Stored e} {id : Nat} (row : Row e) (mem : stored ∈ table.rows)
    (different : stored.id ≠ id) : stored ∈ (table.replace id row).rows :=
  List.mem_map.2 ⟨stored, mem, if_neg different⟩

theorem ids_replace (table : Table e) (id : Nat) (row : Row e) :
    (table.replace id row).rows.map Stored.id = table.rows.map Stored.id := by
  unfold replace
  rw [List.map_map]
  apply List.map_congr_left
  intro stored _
  by_cases same : stored.id = id
  · rw [Function.comp_apply, if_pos same, same]
  · rw [Function.comp_apply, if_neg same]

/-- What the new row has in common with the old one, all rows keep. -/
theorem map_replace {f : Row e → β} {first : Stored e} {row : Row e} (mem : first ∈ table.rows)
    (kept : f row = f first.row) :
    ((table.replace first.id row).rows.map fun stored => f stored.row) =
      table.rows.map fun stored => f stored.row := by
  unfold replace
  rw [List.map_map]
  apply List.map_congr_left
  intro stored storedMem
  by_cases same : stored.id = first.id
  · rw [Function.comp_apply, if_pos same, kept, eq_of_id storedMem mem same]
  · rw [Function.comp_apply, if_neg same]

/-- If a filter takes neither the old row nor the new one, it does not see the change. -/
theorem filter_replace {f : Row e → Bool} {first : Stored e} {row : Row e}
    (mem : first ∈ table.rows) (old : f first.row = false) (new : f row = false) :
    ((table.replace first.id row).rows.filter fun stored => f stored.row) =
      table.rows.filter fun stored => f stored.row := by
  unfold replace
  rw [List.filter_map]
  have sees : ∀ stored ∈ table.rows,
      ((fun stored => f stored.row) ∘ fun stored : Stored e =>
        if stored.id = first.id then ⟨first.id, row⟩ else stored) stored = f stored.row := by
    intro stored storedMem
    by_cases same : stored.id = first.id
    · rw [Function.comp_apply, if_pos same, eq_of_id storedMem mem same, new, old]
    · rw [Function.comp_apply, if_neg same]
  have stays : ∀ stored ∈ table.rows.filter fun stored => f stored.row,
      (if stored.id = first.id then (⟨first.id, row⟩ : Stored e) else stored) = id stored := by
    intro stored storedMem
    obtain ⟨storedMem, taken⟩ := List.mem_filter.1 storedMem
    refine if_neg fun same => ?_
    rw [eq_of_id storedMem mem same, old] at taken
    cases taken
  rw [List.filter_congr sees, List.map_congr_left stays, List.map_id]

/-- Erased by the ids of some rows, a table keeps the other rows. -/
theorem mem_erase {found : List (Stored e)} (within : found ⊆ table.rows) {stored : Stored e} :
    stored ∈ (table.erase fun other => (found.map Stored.id).contains other.id).rows ↔
      stored ∈ table.rows ∧ stored ∉ found := by
  have listed (mem : stored ∈ table.rows) : stored.id ∈ found.map Stored.id ↔ stored ∈ found := by
    refine ⟨fun same => ?_, List.mem_map_of_mem⟩
    obtain ⟨other, otherMem, id⟩ := List.mem_map.1 same
    exact eq_of_id (within otherMem) mem id ▸ otherMem
  simp only [erase, List.mem_filter, Bool.not_eq_true', List.contains_eq_mem,
    decide_eq_false_iff_not]
  exact and_congr_right fun mem => not_congr (listed mem)

end Table

/-! ## Databases -/

namespace Database

variable {database next : Database}

def rows (database : Database) (e : Entity) : List (Stored e) :=
  (database e).elim [] Table.rows

theorem rows_of_table {table : Table e} (h : database e = some table) :
    database.rows e = table.rows := by
  rw [rows, h, Option.elim_some]

theorem table_of_mem {stored : Stored e} (mem : stored ∈ database.rows e) :
    ∃ table, database e = some table := by
  unfold rows at mem
  cases stands : database e with
  | none =>
    rw [stands] at mem
    cases mem
  | some table => exact ⟨table, rfl⟩

theorem eq_of_id {a b : Stored e} (ha : a ∈ database.rows e) (hb : b ∈ database.rows e)
    (same : a.id = b.id) : a = b := by
  obtain ⟨table, stands⟩ := table_of_mem ha
  rw [rows_of_table stands] at ha hb
  exact Table.eq_of_id ha hb same

theorem rows_congr (h : next e = database e) : next.rows e = database.rows e := by
  rw [rows, h, rows]

def rowAt (database : Database) (e : Entity) (id : Nat) : Option (Stored e) :=
  (database.rows e).find? fun stored => stored.id == id

theorem rowAt_of_mem {stored : Stored e} (mem : stored ∈ database.rows e) :
    database.rowAt e stored.id = some stored := by
  unfold rowAt rows at *
  cases stands : database e with
  | none =>
    rw [stands] at mem
    cases mem
  | some table =>
    rw [stands, Option.elim_some] at mem
    rw [Option.elim_some]
    cases found : table.rows.find? fun other => other.id == stored.id with
    | none => exact absurd (List.find?_eq_none.1 found stored mem) (by simp)
    | some other =>
      have same : other.id = stored.id := by simpa using List.find?_some found
      rw [Table.eq_of_id (List.mem_of_find?_eq_some found) mem same]

theorem put_same (database : Database) (table : Table e) :
    database.put e table e = some table := by
  simp [put]

theorem put_other (table : Table e) (different : e ≠ other) :
    database.put e table other = database other := by
  simp [put, Assignment.set_other _ _ different]

theorem rows_put (database : Database) (table : Table e) :
    (database.put e table).rows e = table.rows :=
  rows_of_table (put_same database table)

theorem table_ok {table : Table e} (h : database.table e = .ok table) :
    database e = some table := by
  unfold Database.table at h
  split at h
  · next found =>
    cases h
    exact found
  · cases h

theorem table_eq {table : Table e} (stands : database e = some table) :
    database.table e = .ok table := by
  rw [Database.table, stands]

/-- A query is answered if it fits, asks for storable timestamps and can be put to the database, and
there is a table. -/
theorem rows_iff {query : Query e} {found : List (Stored e)} :
    query.rows none database = .ok found ↔
      ∃ clause keeps table, query.criterion.compile e = .ok clause ∧
        query.keeps.getD (.ok fun _ => true) = .ok keeps ∧
        clause.check query.keeps.isSome = .ok () ∧ database e = some table ∧
        found = query.answer clause keeps table := by
  constructor
  · intro asked
    obtain ⟨clause, compiled, asked⟩ := ok_of_bind asked
    obtain ⟨keeps, kept, asked⟩ := ok_of_bind asked
    obtain ⟨_, checked, asked⟩ := ok_of_bind asked
    obtain ⟨table, stands, asked⟩ := ok_of_bind asked
    cases asked
    exact ⟨clause, keeps, table, compiled, kept, checked, table_ok stands, rfl⟩
  · rintro ⟨clause, keeps, table, compiled, kept, checked, stands, rfl⟩
    exact bind_ok compiled (bind_ok kept (bind_ok checked (bind_ok (table_eq stands) rfl)))

/-- Without a further condition, the answer is what the clause selects. -/
theorem answer_select (criterion : Criterion) (order : RowOrder e) (clause : Clause e)
    (table : Table e) :
    ({ criterion, order } : Query e).answer clause (fun _ => true) table =
      order.arrange (table.select clause) :=
  congrArg order.arrange (List.filter_eq_self.2 fun _ _ => rfl)

/-- A criterion reads what its clause selects, in an order, if this can be asked. -/
theorem read_ordered {criterion : Criterion} {clause : Clause e} {table : Table e}
    (order : RowOrder e) (compiled : criterion.compile e = .ok clause)
    (stands : database e = some table) :
    Query.rows ({ criterion, order } : Query e) none database =
      (clause.check false).map fun _ => order.arrange (table.select clause) := by
  unfold Query.rows
  rw [compiled, table_eq stands]
  show (clause.check false >>= fun _ =>
    .ok (({ criterion, order } : Query e).answer clause _ table)) = _
  rw [answer_select]
  cases clause.check false <;> rfl

/-- Without an order they are read by ascending id. -/
theorem read_eq {criterion : Criterion} {clause : Clause e} {table : Table e}
    (compiled : criterion.compile e = .ok clause) (stands : database e = some table) :
    Query.rows ({ criterion } : Query e) none database =
      (clause.check false).map fun _ => table.select clause :=
  read_ordered .byId compiled stands

/-- A criterion is answered if it is a query and there is a table. -/
theorem read_ordered_iff {criterion : Criterion} {order : RowOrder e} {found : List (Stored e)} :
    Query.rows ({ criterion, order } : Query e) none database = .ok found ↔
      ∃ clause table, criterion.compile e = .ok clause ∧ clause.check false = .ok () ∧
        database e = some table ∧ found = order.arrange (table.select clause) := by
  rw [rows_iff]
  constructor
  · rintro ⟨clause, keeps, table, compiled, kept, checked, stands, rfl⟩
    cases kept
    exact ⟨clause, table, compiled, checked, stands, answer_select ..⟩
  · rintro ⟨clause, table, compiled, checked, stands, rfl⟩
    exact ⟨clause, _, table, compiled, rfl, checked, stands, (answer_select ..).symm⟩

theorem read_iff {criterion : Criterion} {found : List (Stored e)} :
    Query.rows ({ criterion } : Query e) none database = .ok found ↔
      ∃ clause table, criterion.compile e = .ok clause ∧ clause.check false = .ok () ∧
        database e = some table ∧ found = table.select clause :=
  @read_ordered_iff _ _ _ .byId _

/-- What a criterion reads is what its clause selects. -/
theorem read_ok {criterion : Criterion} {found : List (Stored e)}
    (asked : Query.rows ({ criterion } : Query e) none database = .ok found) :
    ∃ clause table, criterion.compile e = .ok clause ∧ database e = some table ∧
      found = table.select clause := by
  obtain ⟨clause, table, compiled, _, stands, selected⟩ := read_iff.1 asked
  exact ⟨clause, table, compiled, stands, selected⟩

/-- What is read are rows that there are. -/
theorem read_subset {criterion : Criterion} {found : List (Stored e)}
    (asked : Query.rows ({ criterion } : Query e) none database = .ok found) :
    found ⊆ database.rows e := by
  obtain ⟨clause, table, _, stands, rfl⟩ := read_ok asked
  rw [rows_of_table stands]
  exact List.filter_subset_self _

/-- Asked for everything, a table gives all its rows by ascending id. -/
theorem readAll {table : Table e} (stands : database e = some table) :
    Query.rows { criterion := .matcher .all } none database = .ok table.rows := by
  have every : table.select .everything = table.rows := List.filter_eq_self.2 fun _ _ => rfl
  have compiled : (Criterion.matcher .all).compile e = .ok .everything := rfl
  rw [read_eq compiled stands, every]
  rfl

/-- A draft is written exactly if its entries make a row. -/
theorem insert_iff {draft : Draft e} {id : Nat} :
    database.insert e draft = .ok (next, id) ↔
      ∃ table row, database e = some table ∧
        draft.entries.Makes (table.rows.map Stored.row) row ∧
        next = database.put e (table.append row) ∧ id = table.nextId := by
  constructor
  · intro h
    obtain ⟨_, stamps, h⟩ := ok_of_bind h
    obtain ⟨table, stands, h⟩ := ok_of_bind h
    obtain ⟨_, widths, h⟩ := ok_of_bind h
    obtain ⟨_, inserted, h⟩ := ok_of_bind h
    obtain ⟨row, filled, inserted⟩ := ok_of_bind inserted
    obtain ⟨_, conditions, inserted⟩ := ok_of_bind inserted
    obtain ⟨_, keys, inserted⟩ := ok_of_bind inserted
    cases inserted
    cases h
    exact ⟨table, row, table_ok stands, ⟨stamps, widths, filled, conditions, keys⟩, rfl, rfl⟩
  · rintro ⟨table, row, stands, makes, rfl, rfl⟩
    have inserted : table.insert draft.entries = .ok (table.append row, table.nextId) :=
      bind_ok makes.filled (bind_ok makes.conditions (bind_ok makes.keys rfl))
    exact bind_ok makes.stamps (bind_ok (table_eq stands) (bind_ok makes.widths
      (bind_ok inserted rfl)))

/-- A draft that breaks a condition makes a row that does. -/
theorem insert_checkFailed {draft : Draft e} {name : String}
    (failed : database.insert e draft = .error (.checkFailed name)) :
    ∃ row, draft.entries.fill = .ok row ∧ row.checkConditions = .error (.checkFailed name) := by
  -- Conditions come after timestamps, the table, widths and values, and before keys.
  rcases error_of_bind failed with stamps | ⟨_, _, failed⟩
  · obtain ⟨column, _, stamp⟩ := error_of_forM stamps
    unfold Draft.entries Entry.checkStamp at stamp
    cases checked : (e.kind column).checkStamp ((e.kind column).orDefault (draft column)) <;>
      simp [checked, Except.mapError] at stamp
  rcases error_of_bind failed with noTable | ⟨table, _, failed⟩
  · unfold Database.table at noTable
    split at noTable <;> cases noTable
  rcases error_of_bind failed with widths | ⟨_, _, failed⟩
  · unfold Entries.checkWidths at widths
    split at widths <;> cases widths
  rcases error_of_bind failed with failed | ⟨_, _, written⟩
  swap
  · cases written
  rcases error_of_bind failed with missing | ⟨row, filled, failed⟩
  · unfold Entries.fill at missing
    split at missing <;> cases missing
  rcases error_of_bind failed with broken | ⟨_, _, failed⟩
  · exact ⟨row, filled, broken⟩
  rcases error_of_bind failed with taken | ⟨_, _, written⟩
  · unfold Row.checkKeys at taken
    split at taken <;> cases taken
  · cases written

/-- A revision is written exactly if its entries make a row. -/
theorem update_iff {stored : Stored e} {revision : Revision e} :
    database.update e stored revision = .ok next ↔
      ∃ table row, database e = some table ∧
        (revision.entries stored.row).Makes
          ((table.rows.filter fun other => other.id != stored.id).map Stored.row) row ∧
        next = database.put e (table.replace stored.id row) := by
  constructor
  · intro h
    obtain ⟨_, stamps, h⟩ := ok_of_bind h
    obtain ⟨table, stands, h⟩ := ok_of_bind h
    obtain ⟨_, widths, h⟩ := ok_of_bind h
    obtain ⟨_, updated, h⟩ := ok_of_bind h
    obtain ⟨row, filled, updated⟩ := ok_of_bind updated
    obtain ⟨_, conditions, updated⟩ := ok_of_bind updated
    obtain ⟨_, keys, updated⟩ := ok_of_bind updated
    cases updated
    cases h
    exact ⟨table, row, table_ok stands, ⟨stamps, widths, filled, conditions, keys⟩, rfl⟩
  · rintro ⟨table, row, stands, makes, rfl⟩
    have updated : table.update stored.id (revision.entries stored.row) =
        .ok (table.replace stored.id row) :=
      bind_ok makes.filled (bind_ok makes.conditions (bind_ok makes.keys rfl))
    exact bind_ok makes.stamps (bind_ok (table_eq stands) (bind_ok makes.widths
      (bind_ok updated rfl)))

theorem delete_ok {ids : List Nat} (h : database.delete e ids = .ok next) :
    ∃ table, database e = some table ∧
      next = database.put e (table.erase fun stored => ids.contains stored.id) := by
  obtain ⟨table, found, h⟩ := ok_of_bind h
  cases h
  exact ⟨table, table_ok found, rfl⟩

end Database

/-! ## Runs -/

namespace Transaction

/-- What a transaction comes to: its result, and the session that it leaves. -/
def outcome (work : Transaction α) (session : Session) : Except Failure α × Session :=
  work.run.run session

/-- The transaction goes through from one session to another, and gives the value. -/
def Ran (work : Transaction α) (before : Session) (value : α) (after : Session) : Prop :=
  work.outcome before = (.ok value, after)

variable {before after : Session}

theorem outcome_bind (first : Transaction α) (rest : α → Transaction β) (session : Session) :
    (first >>= rest).outcome session =
      match first.outcome session with
      | (.ok a, middle) => (rest a).outcome middle
      | (.error failure, middle) => (.error failure, middle) := by
  have steps : (first >>= rest).outcome session =
      (ExceptT.bindCont rest (first.outcome session).1 (first.outcome session).2
        : Except Failure β × Session) := rfl
  rw [steps]
  generalize first.outcome session = reached
  obtain ⟨failure | a, middle⟩ := reached <;> rfl

theorem ran_pure {given value : α} (ran : (pure given : Transaction α).Ran before value after) :
    value = given ∧ after = before := by
  cases ran
  exact ⟨rfl, rfl⟩

theorem ran_bind {first : Transaction α} {rest : α → Transaction β} {value : β}
    (ran : (first >>= rest).Ran before value after) :
    ∃ a middle, first.Ran before a middle ∧ (rest a).Ran middle value after := by
  unfold Ran at ran ⊢
  rw [outcome_bind] at ran
  generalize first.outcome before = reached at ran ⊢
  obtain ⟨failure | a, middle⟩ := reached
  · cases ran
  · exact ⟨a, middle, rfl, ran⟩

theorem ran_ofExcept {given : Except Failure α} {value : α}
    (ran : (ofExcept given).Ran before value after) : given = .ok value ∧ after = before := by
  cases given with
  | error _ => cases ran
  | ok a =>
    cases ran
    exact ⟨rfl, rfl⟩

theorem ran_get {rest : Session → Transaction β} {value : β}
    (ran : ((get : Transaction Session) >>= rest).Ran before value after) :
    (rest before).Ran before value after := by
  obtain ⟨_, _, got, following⟩ := ran_bind ran
  cases got
  exact following

theorem ran_fetch {given : Except Failure α} {rest : α → Transaction β} {value : β}
    (ran : (ofExcept given >>= rest).Ran before value after) :
    ∃ a, given = .ok a ∧ (rest a).Ran before value after := by
  obtain ⟨a, _, fetched, following⟩ := ran_bind ran
  obtain ⟨found, rfl⟩ := ran_ofExcept fetched
  exact ⟨a, found, following⟩

theorem ran_read {question : Database → Except Failure α} {rest : α → Transaction β} {value : β}
    (ran : (read question >>= rest).Ran before value after) :
    ∃ a, question before.database = .ok a ∧ (rest a).Ran before value after := by
  obtain ⟨a, _, asked, following⟩ := ran_bind ran
  obtain ⟨found, rfl⟩ := ran_ofExcept (ran_get asked)
  exact ⟨a, found, following⟩

theorem ran_table {rest : Table e → Transaction β} {value : β}
    (ran : (Transaction.table e >>= rest).Ran before value after) :
    ∃ table, before.database e = some table ∧ (rest table).Ran before value after := by
  obtain ⟨table, _, asked, following⟩ := ran_bind ran
  obtain ⟨found, rfl⟩ := ran_ofExcept (ran_get asked)
  exact ⟨table, Database.table_ok found, following⟩

theorem ran_set {session : Session} {value : PUnit}
    (ran : (set session : Transaction PUnit).Ran before value after) : after = session := by
  cases ran
  rfl

theorem ran_log {lines : Journal} {value : Unit} (ran : (log lines).Ran before value after) :
    after.database = before.database := by
  cases ran
  rfl

theorem ran_insert {draft : Draft e} {id : Nat} (ran : (insert e draft).Ran before id after) :
    ∃ table row, before.database e = some table ∧
      draft.entries.Makes (table.rows.map Stored.row) row ∧
      after.database = before.database.put e (table.append row) ∧ id = table.nextId := by
  obtain ⟨⟨database, _⟩, inserted, following⟩ := ran_fetch (ran_get ran)
  obtain ⟨_, _, put, last⟩ := ran_bind following
  obtain ⟨rfl, rfl⟩ := ran_pure last
  rw [ran_set put]
  exact Database.insert_iff.1 inserted

theorem ran_update {stored : Stored e} {revision : Revision e} {value : Unit}
    (ran : (update e stored revision).Ran before value after) :
    ∃ table row, before.database e = some table ∧
      (revision.entries stored.row).Makes
        ((table.rows.filter fun other => other.id != stored.id).map Stored.row) row ∧
      after.database = before.database.put e (table.replace stored.id row) := by
  obtain ⟨_, updated, put⟩ := ran_fetch (ran_get ran)
  rw [ran_set put]
  exact Database.update_iff.1 updated

theorem ran_delete {ids : List Nat} {value : Unit} (ran : (delete e ids).Ran before value after) :
    ∃ table, before.database e = some table ∧
      after.database =
        before.database.put e (table.erase fun stored => ids.contains stored.id) := by
  obtain ⟨_, deleted, put⟩ := ran_fetch (ran_get ran)
  rw [ran_set put]
  exact Database.delete_ok deleted

/-! ### Going through -/

theorem pure_ran (value : α) (session : Session) :
    (pure value : Transaction α).Ran session value session :=
  rfl

theorem bind_ran {first : Transaction α} {rest : α → Transaction β} {a : α} {value : β}
    {middle : Session} (ran : first.Ran before a middle) (next : (rest a).Ran middle value after) :
    (first >>= rest).Ran before value after := by
  unfold Ran at ran next ⊢
  rw [outcome_bind, ran]
  exact next

theorem ofExcept_ran {given : Except Failure α} {value : α} (h : given = .ok value)
    (session : Session) : (ofExcept given).Ran session value session := by
  rw [h]
  rfl

theorem table_ran {table : Table e} {session : Session} (stands : session.database e = some table) :
    (Transaction.table e).Ran session table session :=
  bind_ran (rfl : (get : Transaction Session).Ran session session session)
    (ofExcept_ran (Database.table_eq stands) session)

theorem log_ran (lines : Journal) (session : Session) :
    (log lines).Ran session () { session with journal := session.journal ++ lines } :=
  rfl

theorem insert_ran {draft : Draft e} {next : Database} {id : Nat} {session : Session}
    (inserted : session.database.insert e draft = .ok (next, id)) :
    (insert e draft).Ran session id { session with database := next } :=
  bind_ran (rfl : (get : Transaction Session).Ran session session session)
    (bind_ran (ofExcept_ran inserted session) rfl)

theorem update_ran {stored : Stored e} {revision : Revision e} {next : Database} {session : Session}
    (updated : session.database.update e stored revision = .ok next) :
    (update e stored revision).Ran session () { session with database := next } :=
  bind_ran (rfl : (get : Transaction Session).Ran session session session)
    (bind_ran (ofExcept_ran updated session) rfl)

theorem read_ran {question : Database → Except Failure α} {value : α} {session : Session}
    (answered : question session.database = .ok value) :
    (read question).Ran session value session :=
  bind_ran (rfl : (get : Transaction Session).Ran session session session)
    (ofExcept_ran answered session)

theorem delete_ran {ids : List Nat} {table : Table e} {session : Session}
    (stands : session.database e = some table) :
    (delete e ids).Ran session ()
      { session with
        database :=
          session.database.put e (table.erase fun stored => ids.contains stored.id) } := by
  have deleted : session.database.delete e ids =
      .ok (session.database.put e (table.erase fun stored => ids.contains stored.id)) :=
    bind_ok (Database.table_eq stands) rfl
  exact bind_ran (rfl : (get : Transaction Session).Ran session session session)
    (bind_ran (ofExcept_ran deleted session) rfl)

/-! ### Failing -/

theorem bind_failed {first : Transaction α} {rest : α → Transaction β} {a : α} {middle : Session}
    {failure : Failure} (ran : first.Ran before a middle)
    (failed : ((rest a).outcome middle).1 = .error failure) :
    ((first >>= rest).outcome before).1 = .error failure := by
  unfold Ran at ran
  rw [outcome_bind, ran]
  exact failed

theorem first_failed {first : Transaction α} {rest : α → Transaction β} {failure : Failure}
    (failed : (first.outcome before).1 = .error failure) :
    ((first >>= rest).outcome before).1 = .error failure := by
  rw [outcome_bind]
  generalize first.outcome before = reached at failed ⊢
  obtain ⟨result, middle⟩ := reached
  cases failed
  rfl

theorem fetch_failed {given : Except Failure α} {rest : α → Transaction β} {failure : Failure}
    (failed : given = .error failure) :
    ((ofExcept given >>= rest).outcome before).1 = .error failure := by
  rw [failed]
  rfl

theorem read_failed {question : Database → Except Failure α} {failure : Failure}
    (failed : question before.database = .error failure) :
    ((read question).outcome before).1 = .error failure := by
  have asked : (read question).outcome before =
      (ofExcept (question before.database)).outcome before := rfl
  rw [asked, failed]
  rfl

theorem insert_failed {draft : Draft e} {failure : Failure}
    (failed : before.database.insert e draft = .error failure) :
    ((insert e draft).outcome before).1 = .error failure := by
  have begins : (insert e draft).outcome before =
      (ofExcept (before.database.insert e draft) >>= fun written => do
        set { before with database := written.1 }
        pure written.2).outcome before := rfl
  rw [begins]
  exact fetch_failed failed

end Transaction

/-! ## All or nothing -/

variable {database : Database}

/-- The outcome of a transaction on a database, once its last session is reached. -/
def settled (database : Database) : Except Failure α × Session → Outcome α
  | (.ok value, session) => ⟨.ok value, session.database, session.journal⟩
  | (.error failure, session) => ⟨.error failure, database, session.journal ++ [undoneLine]⟩

theorem transact_eq (work : Transaction α) (database : Database) :
    transact work database = settled database (work.outcome ⟨database, []⟩) := by
  unfold transact Transaction.outcome settled
  rfl

/-- A transaction goes through and leaves what it reached, or fails and leaves the database. -/
theorem transact_cases (work : Transaction α) (database : Database) :
    (∃ value after, work.Ran ⟨database, []⟩ value after ∧
        transact work database = ⟨.ok value, after.database, after.journal⟩) ∨
      ∃ failure, (transact work database).result = .error failure ∧
        (transact work database).database = database := by
  rw [transact_eq]
  unfold Transaction.Ran
  generalize work.outcome ⟨database, []⟩ = reached
  obtain ⟨failure | value, after⟩ := reached
  · exact .inr ⟨failure, rfl, rfl⟩
  · exact .inl ⟨value, after, rfl, rfl⟩

/-- A transaction whose value is not asked for does the same. -/
theorem transact_discard (work : Transaction α) (database : Database) :
    transact (do let _ ← work) database =
      ⟨(transact work database).result.map fun _ => (), (transact work database).database,
        (transact work database).journal⟩ := by
  rw [transact_eq, transact_eq, Transaction.outcome_bind]
  generalize work.outcome ⟨database, []⟩ = reached
  obtain ⟨failure | value, after⟩ := reached <;> rfl

theorem transact_ok {work : Transaction α} {value : α}
    (h : (transact work database).result = .ok value) :
    ∃ after, work.Ran ⟨database, []⟩ value after ∧
      (transact work database).database = after.database := by
  rcases transact_cases work database with ⟨value', after, ran, whole⟩ | ⟨failure, failed, _⟩
  · rw [whole] at h ⊢
    cases h
    exact ⟨after, ran, rfl⟩
  · rw [failed] at h
    cases h

theorem transact_ran {work : Transaction α} {value : α} {after : Session}
    (ran : work.Ran ⟨database, []⟩ value after) :
    transact work database = ⟨.ok value, after.database, after.journal⟩ := by
  rw [transact_eq, ran]
  rfl

theorem transact_failed {work : Transaction α} {failure : Failure}
    (failed : (work.outcome ⟨database, []⟩).1 = .error failure) :
    (transact work database).result = .error failure := by
  rw [transact_eq]
  generalize work.outcome ⟨database, []⟩ = reached at failed ⊢
  obtain ⟨result, after⟩ := reached
  cases failed
  rfl

theorem transact_error {work : Transaction α} {failure : Failure}
    (h : (transact work database).result = .error failure) :
    (transact work database).database = database := by
  rcases transact_cases work database with ⟨_, _, _, whole⟩ | ⟨_, _, kept⟩
  · rw [whole] at h
    cases h
  · exact kept

/-- Asking a question answers it. -/
theorem transact_read (question : Database → Except Failure α) :
    (transact (Transaction.read question) database).result = question database := by
  have asked : (Transaction.read question).outcome ⟨database, []⟩ =
      (Transaction.ofExcept (question database)).outcome ⟨database, []⟩ := rfl
  rw [transact_eq, asked]
  cases question database with
  | error _ => rfl
  | ok _ => rfl

theorem attempt_ok {work : Except Failure (Transaction α)} {value : α}
    (h : (attempt work database).result = .ok value) :
    ∃ prepared after, work = .ok prepared ∧ prepared.Ran ⟨database, []⟩ value after ∧
      (attempt work database).database = after.database := by
  cases work with
  | error _ => cases h
  | ok prepared =>
    have committed : (transact prepared database).result = .ok value := h
    obtain ⟨after, ran, reached⟩ := transact_ok committed
    exact ⟨prepared, after, rfl, ran, reached⟩

theorem attempt_error {work : Except Failure (Transaction α)} {failure : Failure}
    (h : (attempt work database).result = .error failure) :
    (attempt work database).database = database := by
  cases work with
  | error _ => rfl
  | ok prepared =>
    have undone : (transact prepared database).result = .error failure := h
    exact transact_error undone

end FarmLedger
