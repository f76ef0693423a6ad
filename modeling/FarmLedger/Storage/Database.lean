/-
# FarmLedger.Storage.Database — all tables

A database holds a table for each entity, or none before it is created. What a write needs is
asked for in a fixed order: timestamps that can be stored, in all rows, then the table, and then
row by row numbers that fit, the values, the conditions and the keys.
-/
import FarmLedger.Storage.Table

namespace FarmLedger

abbrev Database : Type :=
  Assignment fun e : Entity => Option (Table e)

namespace Database

/-- The database before any table is created. -/
def empty : Database := ⟨fun _ => none⟩

def table (database : Database) (e : Entity) : Except Failure (Table e) :=
  match database e with
  | some table => .ok table
  | none => .error (.noSuchTable e.table)

def put (database : Database) (e : Entity) (table : Table e) : Database :=
  (database.set e (some table)).settle Entity.all

/-- Creates the tables that are missing. -/
def createTables (database : Database) : Database :=
  Assignment.settle Entity.all ⟨fun e => some ((database e).getD .empty)⟩

def dropTables (_database : Database) : Database :=
  empty

/-- Writes new rows of one entity, and tells their ids. -/
def insertAll (database : Database) (e : Entity) (drafts : List (Draft e)) :
    Except Failure (Database × List Nat) := do
  let entries := drafts.map Draft.entries
  entries.forM Entries.checkStamps
  let table ← database.table e
  let (table, ids) ← entries.foldlM (fun (table, ids) entries => do
    entries.checkWidths
    let (table, id) ← table.insert entries
    pure (table, ids ++ [id])) (table, [])
  pure (database.put e table, ids)

/-- Writes a new row, and tells its id. -/
def insert (database : Database) (e : Entity) (draft : Draft e) :
    Except Failure (Database × Nat) := do
  draft.entries.checkStamps
  let table ← database.table e
  draft.entries.checkWidths
  let (table, id) ← table.insert draft.entries
  pure (database.put e table, id)

def update (database : Database) (e : Entity) (stored : Stored e) (revision : Revision e) :
    Except Failure Database := do
  let entries := revision.entries stored.row
  entries.checkStamps
  let table ← database.table e
  entries.checkWidths
  let table ← table.update stored.id entries
  pure (database.put e table)

/-- Takes the rows of some ids out. -/
def delete (database : Database) (e : Entity) (ids : List Nat) : Except Failure Database := do
  let table ← database.table e
  pure (database.put e (table.erase fun stored => ids.contains stored.id))

end Database

end FarmLedger
