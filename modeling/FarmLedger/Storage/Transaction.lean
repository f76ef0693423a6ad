/-
# FarmLedger.Storage.Transaction — all or nothing

A transaction works on the database step by step and writes to the journal. `transact` runs it: if
it succeeds, the database is as the transaction leaves it, and if it fails at any step, the
database is as it was before. The journal is kept in both cases, with a line about the failure.
-/
import FarmLedger.Journal
import FarmLedger.Storage.Database

namespace FarmLedger

/-- What a transaction works on. -/
structure Session where
  database : Database
  journal : Journal

/-- Steps that may fail and that see what the steps before them did. -/
abbrev Transaction (α : Type) : Type :=
  ExceptT Failure (StateM Session) α

/-- What a call does: its result, the database after it, and what it wrote to the journal. -/
structure Outcome (α : Type) where
  result : Except Failure α
  database : Database
  journal : Journal

namespace Transaction

def log (lines : Journal) : Transaction Unit :=
  modify fun session => { session with journal := session.journal ++ lines }

/-- Goes on with a value, or fails. -/
def ofExcept {α : Type} (value : Except Failure α) : Transaction α :=
  liftExcept value
where
  liftExcept : Except Failure α → Transaction α
    | .ok a => pure a
    | .error failure => throw failure

/-- The table of an entity as the steps before left it. -/
def table (e : Entity) : Transaction (Table e) := do
  ofExcept ((← get).database.table e)

def insertAll (e : Entity) (drafts : List (Draft e)) : Transaction (List Nat) := do
  let session ← get
  let (database, ids) ← ofExcept (session.database.insertAll e drafts)
  set { session with database }
  pure ids

def insert (e : Entity) (draft : Draft e) : Transaction Nat := do
  let session ← get
  let (database, id) ← ofExcept (session.database.insert e draft)
  set { session with database }
  pure id

def update (e : Entity) (stored : Stored e) (revision : Revision e) : Transaction Unit := do
  let session ← get
  let database ← ofExcept (session.database.update e stored revision)
  set { session with database }

def delete (e : Entity) (ids : List Nat) : Transaction Unit := do
  let session ← get
  let database ← ofExcept (session.database.delete e ids)
  set { session with database }

end Transaction

def undoneLine : Line :=
  ⟨.debug, .connection, "Rolling back analytics transaction."⟩

/-- Runs a transaction on a database. -/
def transact {α : Type} (work : Transaction α) (database : Database) : Outcome α :=
  match (work.run.run ⟨database, []⟩ : Except Failure α × Session) with
  | (.ok value, session) => ⟨.ok value, session.database, session.journal⟩
  | (.error failure, session) => ⟨.error failure, database, session.journal ++ [undoneLine]⟩

/-- Runs a transaction if it can be prepared. -/
def attempt {α : Type} (work : Except Failure (Transaction α)) (database : Database) : Outcome α :=
  match work with
  | .ok work => transact work database
  | .error failure => ⟨.error failure, database, []⟩

end FarmLedger
