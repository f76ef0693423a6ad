/-
# FarmLedger.Schema.Outline — the shape of a table

An outline tells what a table looks like in each dialect: its columns with their types, its
constraints and its indexes by name. A key without a condition is a constraint, one with a
condition is an index that no two rows may share.
-/
import FarmLedger.Schema.Entity

namespace FarmLedger

open FarmLedger.Time

def Kind.sqlType : Kind → Dialect → String
  | text, _ => "VARCHAR"
  | real, .postgresql => "DOUBLE PRECISION"
  | real, .sqlite => "DOUBLE"
  | whole, _ => "BIGINT"
  | flag, _ => "BOOLEAN"
  | bytes, .postgresql => "BYTEA"
  | bytes, .sqlite => "BLOB"
  | moment, .postgresql | optionalMoment, .postgresql => "TIMESTAMP WITH TIME ZONE"
  | moment, .sqlite | optionalMoment, .sqlite => "DATETIME"
  | texts, .postgresql => "TEXT[]"
  | reals, .postgresql => "DOUBLE PRECISION[]"
  | wholes, .postgresql => "INTEGER[]"
  | texts, .sqlite | reals, .sqlite | wholes, .sqlite => "JSON"

def idType : Dialect → String
  | .postgresql => "BIGINT"
  | .sqlite => "INTEGER"

/-- A column as the database sees it. -/
structure ColumnOutline where
  name : String
  nullable : Bool
  sqlType : Dialect → String

/-- What a constraint asks for. -/
inductive Demand
  | primary (columns : List String)
  | unique (columns : List String)
  | check (condition : String)
  deriving DecidableEq, Repr

structure ConstraintOutline where
  name : String
  demand : Demand
  deriving DecidableEq, Repr

/-- An index, perhaps over some rows only. -/
structure IndexOutline where
  name : String
  unique : Bool
  columns : List String
  condition : Option String
  deriving DecidableEq, Repr

namespace Schema

def columnOutlines (schema : Schema) : List ColumnOutline :=
  ⟨"id", false, idType⟩ :: schema.columns.map fun column =>
    ⟨schema.name column, (schema.kind column).isNullable, (schema.kind column).sqlType⟩

def primaryKey (schema : Schema) : ConstraintOutline :=
  ⟨"pk_" ++ schema.table, .primary ["id"]⟩

/-- The constraints of the table in the order in which they are declared. -/
def constraintOutlines (schema : Schema) : List ConstraintOutline :=
  schema.primaryKey
    :: (schema.keys.filter (·.condition.isNone)).map
      (fun key => ⟨key.name, .unique (key.columns.map schema.name)⟩)
    ++ schema.checks.map fun check => ⟨check.name, .check check.condition⟩

/-- The indexes of the table in the order in which they are declared. -/
def indexOutlines (schema : Schema) : List IndexOutline :=
  schema.indexes.map (fun index => ⟨index.name, false, index.columns.map schema.name, none⟩)
    ++ (schema.keys.filter (·.condition.isSome)).map fun key =>
      ⟨key.name, true, key.columns.map schema.name, key.condition⟩

end Schema

end FarmLedger
