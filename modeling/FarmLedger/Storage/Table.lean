/-
# FarmLedger.Storage.Table — numbered rows

A table lists its rows with their ids, which ascend. A new row goes to the end and gets the id
after the last one, so the id of a deleted last row is given out again. Rows are changed in place
and taken out; neither touches another row.
-/
import FarmLedger.Storage.Draft

namespace FarmLedger

structure Stored (e : Entity) where
  id : Nat
  row : Row e

/-- The rows of an entity by ascending id. -/
structure Table (e : Entity) where
  rows : List (Stored e)
  ascending : (rows.map Stored.id).Pairwise (· < ·)

namespace Table

variable {e : Entity}

def empty : Table e := ⟨[], .nil⟩

def nextId (table : Table e) : Nat :=
  (table.rows.getLast?.elim 0 Stored.id) + 1

theorem lt_nextId (table : Table e) : ∀ id ∈ table.rows.map Stored.id, id < table.nextId := by
  obtain ⟨rows, ascending⟩ := table
  intro id mem
  simp only [nextId]
  cases last : rows.getLast? with
  | none => simp_all
  | some final =>
    obtain ⟨front, rfl⟩ := List.getLast?_eq_some_iff.1 last
    simp only [List.map_append, List.map_cons, List.map_nil, List.pairwise_append,
      List.mem_append, List.mem_singleton] at ascending mem
    simp only [Option.elim_some]
    rcases mem with mem | rfl
    · exact Nat.lt_succ_of_lt (ascending.2.2 id mem final.id rfl)
    · exact Nat.lt_succ_self _

def append (table : Table e) (row : Row e) : Table e where
  rows := table.rows ++ [⟨table.nextId, row⟩]
  ascending := by
    simp only [List.map_append, List.map_cons, List.map_nil, List.pairwise_append,
      List.mem_singleton]
    refine ⟨table.ascending, List.pairwise_singleton _ _, ?_⟩
    rintro id mem _ rfl
    exact table.lt_nextId id mem

/-- The table with another row under an id. -/
def replace (table : Table e) (id : Nat) (row : Row e) : Table e where
  rows := table.rows.map fun stored => if stored.id = id then ⟨id, row⟩ else stored
  ascending := by
    have same : (table.rows.map fun stored => if stored.id = id then ⟨id, row⟩ else stored).map
        Stored.id = table.rows.map Stored.id := by
      rw [List.map_map]
      apply List.map_congr_left
      intro stored _
      simp only [Function.comp]
      split <;> simp_all
    rw [same]
    exact table.ascending

/-- The table without the rows that a condition selects. -/
def erase (table : Table e) (selects : Stored e → Bool) : Table e where
  rows := table.rows.filter fun stored => !selects stored
  ascending := table.ascending.sublist (List.filter_sublist.map Stored.id)

def select (table : Table e) (clause : Clause e) : List (Stored e) :=
  table.rows.filter fun stored => clause.holds stored.row

/-- Writes a new row whose entries are storable and fit. -/
def insert (table : Table e) (entries : Entries e) : Except Failure (Table e × Nat) := do
  let row ← entries.fill
  row.checkConditions
  row.checkKeys (table.rows.map Stored.row)
  pure (table.append row, table.nextId)

/-- Writes a row under the id of an old one. -/
def update (table : Table e) (id : Nat) (entries : Entries e) : Except Failure (Table e) := do
  let row ← entries.fill
  row.checkConditions
  row.checkKeys ((table.rows.filter fun stored => stored.id != id).map Stored.row)
  pure (table.replace id row)

end Table

end FarmLedger
