/-
# FarmLedger.Storage.Query — reading rows

Rows are read in the order of their ids, or sorted by a column. Rows that tie are assumed to keep
the order of their ids: the query leaves their order to the database, and with an index over the
column another one may come out. A limit below zero is no limit. A page has a number from 1 on and a
size from 1 on, and comes with the number of all rows that match; without both of them the page is
everything, and its total is zero.
-/
import FarmLedger.Storage.Transaction

namespace FarmLedger

inductive RowOrder (e : Entity)
  | byId
  /-- Sorted by a comparison that says when a row may come before another. -/
  | sorted (before : Row e → Row e → Bool)

namespace RowOrder

variable {e : Entity}

/-- The rows in order, given by ascending id. -/
def arrange : RowOrder e → List (Stored e) → List (Stored e)
  | byId, rows => rows
  | sorted before, rows => rows.mergeSort fun a b => before a.row b.row

end RowOrder

structure Query (e : Entity) where
  criterion : Criterion
  /-- A further condition; it fails if it compares with a timestamp that no table can hold. -/
  keeps : Option (Except Failure (Row e → Bool)) := none
  order : RowOrder e := .byId

structure Page (e : Entity) where
  rows : List (Stored e)
  total : Nat

/-- The first rows, all of them where the limit is below zero. -/
def takeLimit {α : Type} (limit : Int) (rows : List α) : List α :=
  if limit < 0 then rows else rows.take limit.toNat

/-- A number that the database has to count with. -/
def checkWord (n : Int) : Except Failure Unit :=
  if Kind.fitsWord n then .ok () else .error .wholeTooLarge

namespace Query

variable {e : Entity}

def answer (query : Query e) (clause : Clause e) (keeps : Row e → Bool) (table : Table e) :
    List (Stored e) :=
  query.order.arrange ((table.select clause).filter fun stored => keeps stored.row)

/-- The rows that match, or the first of them. -/
def rows (query : Query e) (limit : Option Int) (database : Database) :
    Except Failure (List (Stored e)) := do
  let clause ← query.criterion.compile e
  let keeps ← query.keeps.getD (.ok fun _ => true)
  clause.check query.keeps.isSome
  let table ← database.table e
  let rows := query.answer clause keeps table
  match limit with
  | none => pure rows
  | some limit => do
    checkWord limit
    pure (takeLimit limit rows)

def count (query : Query e) (database : Database) : Except Failure Nat := do
  let clause ← query.criterion.compile e
  let keeps ← query.keeps.getD (.ok fun _ => true)
  clause.check query.keeps.isSome
  let table ← database.table e
  pure ((table.select clause).countP fun stored => keeps stored.row)

/-- The rows that match, without the first ones and not more than a number of them. -/
def slice (query : Query e) (skipped size : Int) (database : Database) :
    Except Failure (List (Stored e)) := do
  let rows ← query.rows none database
  checkWord skipped
  checkWord size
  pure ((rows.drop skipped.toNat).take size.toNat)

/-- One page of the rows that match. They are counted by a question of its own. -/
def page (query : Query e) (number size : Option Int) (database : Database) :
    Except Failure (Page e) :=
  match number, size with
  | some number, some size => do
    if number < 1 then throw (.pageNumber number)
    if size < 1 then throw (.pageSize size)
    let total ← query.count database
    let rows ← query.slice ((number - 1) * size) size database
    pure ⟨rows, total⟩
  | _, _ => do
    let rows ← query.rows none database
    pure ⟨rows, 0⟩

end Query

/-- Reads from the database as the steps before left it. -/
def Transaction.read {α : Type} (question : Database → Except Failure α) : Transaction α := do
  Transaction.ofExcept (question (← get).database)

end FarmLedger
