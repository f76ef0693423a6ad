/-
# FarmLedger.Schema.Migration — the statements that create the tables

The first revision of the schema creates all tables, then all indexes, and then forbids to change
the rows of tables that only grow. Taking it back undoes this from the end.

Statements are executed one after the other until one fails; `Migration.run` tells which were
executed and what the journal hears.
-/
import FarmLedger.Journal
import FarmLedger.Schema.Outline

namespace FarmLedger

/-- The type of a column when its table is created. -/
def Kind.createdType : Kind → String
  | text => "TEXT"
  | real => "DOUBLE PRECISION"
  | whole => "BIGINT"
  | flag => "BOOLEAN"
  | bytes => "BYTEA"
  | moment | optionalMoment => "TIMESTAMPTZ"
  | texts => "TEXT[]"
  | reals => "DOUBLE PRECISION[]"
  | wholes => "INTEGER[]"

/-- What a new row has to bring for a column. -/
def Kind.createdDemand : Kind → String
  | flag => " NOT NULL DEFAULT FALSE"
  | optionalMoment => ""
  | _ => " NOT NULL"

def inParentheses (names : List String) : String :=
  "(" ++ ", ".intercalate names ++ ")"

def ConstraintOutline.created (outline : ConstraintOutline) : String :=
  "CONSTRAINT " ++ outline.name ++ " " ++
    match outline.demand with
    | .primary columns => "PRIMARY KEY " ++ inParentheses columns
    | .unique columns => "UNIQUE " ++ inParentheses columns
    | .check condition => "CHECK (" ++ condition ++ ")"

namespace Schema

def createTable (schema : Schema) : String :=
  let columns := schema.columns.map fun column =>
    schema.name column ++ " " ++ (schema.kind column).createdType
      ++ (schema.kind column).createdDemand
  let parts := "id BIGINT GENERATED BY DEFAULT AS IDENTITY" :: columns
    ++ schema.constraintOutlines.map ConstraintOutline.created
  "CREATE TABLE " ++ schema.table ++ " ( " ++ ", ".intercalate parts ++ " );"

def createIndex (schema : Schema) (outline : IndexOutline) : String :=
  (if outline.unique then "CREATE UNIQUE INDEX " else "CREATE INDEX ") ++ outline.name ++ " ON "
    ++ schema.table ++ " " ++ inParentheses outline.columns
    ++ outline.condition.elim "" (" WHERE " ++ ·) ++ ";"

/-- The name of the trigger that forbids to change rows. -/
def triggerName (schema : Schema) : String :=
  "trg_" ++ schema.table ++ "_append_only"

/-- Forbids to change the rows of the table. -/
def createTrigger (schema : Schema) : String :=
  "CREATE TRIGGER " ++ schema.triggerName ++ " BEFORE UPDATE ON " ++ schema.table
    ++ " FOR EACH ROW EXECUTE FUNCTION fn_reject_sample_update();"

/-- Allows to change the rows of the table again. -/
def dropTrigger (schema : Schema) : String :=
  "DROP TRIGGER IF EXISTS " ++ schema.triggerName ++ " ON " ++ schema.table ++ ";"

end Schema

namespace Migration

def revision : String := "0001_initial_schema"

/-- The function behind the triggers. -/
def createFunction : String :=
  "CREATE OR REPLACE FUNCTION fn_reject_sample_update() RETURNS trigger LANGUAGE plpgsql AS $$ "
    ++ "BEGIN RAISE EXCEPTION \x27append-only table % does not allow UPDATE\x27, TG_TABLE_NAME; "
    ++ "END; $$;"

def schemas : List Schema :=
  Entity.all.map Entity.schema

/-- The declarations of the tables that only grow. -/
def growing : List Schema :=
  schemas.filter (·.appendOnly)

/-- The statements that create the schema. -/
def upgrade : List String :=
  schemas.map Schema.createTable
    ++ schemas.flatMap (fun schema => schema.indexOutlines.map schema.createIndex)
    ++ createFunction :: growing.map Schema.createTrigger

/-- The statements that take the schema back. -/
def downgrade : List String :=
  growing.reverse.map Schema.dropTrigger
    ++ "DROP FUNCTION IF EXISTS fn_reject_sample_update();"
      :: schemas.reverse.map fun schema => "DROP TABLE IF EXISTS " ++ schema.table ++ ";"

inductive Direction
  | up
  | down
  deriving DecidableEq, Repr

def statements : Direction → List String
  | .up => upgrade
  | .down => downgrade

def Direction.name : Direction → String
  | .up => "upgrade"
  | .down => "downgrade"

/-- What running a migration did. -/
structure Run where
  /-- The statements that were executed, the failed one not among them. -/
  executed : List String
  /-- The statement that failed. -/
  failed : Option String
  journal : List (Level × String)

/-- Executes the statements of a direction until one fails. -/
def run (direction : Direction) (fails : String → Bool) : Run :=
  let all := statements direction
  let executed := all.takeWhile (!fails ·)
  let started := (Level.info, "Starting initial schema migration " ++ direction.name ++ ".")
  match all.find? fails with
  | some statement =>
    ⟨executed, some statement, [started, (.error, "Migration statement failed.")]⟩
  | none =>
    ⟨executed, none,
      [started, (.info, "Completed initial schema migration " ++ direction.name ++ ".")]⟩

end Migration

end FarmLedger
