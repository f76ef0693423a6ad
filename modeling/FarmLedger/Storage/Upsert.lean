/-
# FarmLedger.Storage.Upsert — change the first match or write a new row

`upsert` looks for rows that match. If there is one, the match with the lowest id is revised; if
there is none, a new row is written. The journal hears of a new row only.
-/
import FarmLedger.Storage.Transaction

namespace FarmLedger

/-- What an upsert did to which row. -/
structure Upserted where
  id : Nat
  created : Bool
  deriving DecidableEq, Repr

/-- How a row is to be revised, or why it is not, and what the journal hears of it before. -/
structure Revising (e : Entity) where
  lines : Journal
  result : Except Failure (Revision e)

/-- A revision that the journal does not hear of. -/
def Revising.quiet {e : Entity} (revision : Revision e) : Revising e :=
  ⟨[], .ok revision⟩

def createdLine (e : Entity) (id : Nat) (criterion : Criterion) : Line :=
  ⟨.debug, .upsert,
    "Created " ++ e.table ++ " row id=" ++ toString id ++ " for " ++ criterion.describe ++ "."⟩

/-- Revises the first match, or writes a new row where nothing matches. -/
def upsert (e : Entity) (criterion : Criterion) (create : Except Failure (Draft e))
    (revise : Row e → Revising e) : Transaction Upserted := do
  let clause ← Transaction.ofExcept (criterion.compile e)
  Transaction.ofExcept (clause.check false)
  let table ← Transaction.table e
  match (table.select clause).head? with
  | none =>
    let draft ← Transaction.ofExcept create
    let id ← Transaction.insert e draft
    Transaction.log [createdLine e id criterion]
    pure ⟨id, true⟩
  | some stored =>
    let revising := revise stored.row
    Transaction.log revising.lines
    let revision ← Transaction.ofExcept revising.result
    Transaction.update e stored revision
    pure ⟨stored.id, false⟩

end FarmLedger
