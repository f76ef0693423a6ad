/-
# FarmLedger.Schema.Basic — what is declared about a table

A `Schema` declares a table: its columns in order with their names and kinds, the columns that
matchers may name, the keys that no two rows may share, the conditions that every row keeps, and
the indexes. Conditions are given twice, as the text that the database knows and as what they say
about a row.
-/
import FarmLedger.Schema.Kind

namespace FarmLedger

abbrev Cells {Column : Type} (kind : Column → Kind) : Type :=
  (column : Column) → (kind column).Value

/-- A condition on every row. -/
structure Check {Column : Type} (kind : Column → Kind) where
  name : String
  condition : String
  holds : Cells kind → Bool

/-- Columns that no two rows have in common. A key with a condition covers only some rows. -/
structure Key {Column : Type} (kind : Column → Kind) where
  name : String
  columns : List Column
  condition : Option String := none
  covers : Cells kind → Bool := fun _ => true

/-- Columns that are looked up together. -/
structure Index (Column : Type) where
  name : String
  columns : List Column

structure Schema where
  table : String
  Column : Type
  [decEq : DecidableEq Column]
  /-- The columns after the id, in order. -/
  columns : List Column
  complete : ∀ column, column ∈ columns
  name : Column → String
  kind : Column → Kind
  /-- The columns that a matcher may name. -/
  matchable : List Column
  /-- The fields whose values are kept in upper case. -/
  folded : List String := []
  keys : List (Key kind) := []
  checks : List (Check kind) := []
  indexes : List (Index Column) := []
  /-- Rows are added and removed, never changed. -/
  appendOnly : Bool := false

namespace Schema

def column? (schema : Schema) (name : String) : Option schema.Column :=
  schema.columns.find? fun column => schema.name column == name

def matchable? (schema : Schema) (name : String) : Option schema.Column :=
  schema.matchable.find? fun column => schema.name column == name

/-- The values of a field are kept in upper case. -/
def folds (schema : Schema) (field : String) : Bool :=
  schema.folded.contains field

end Schema

end FarmLedger
