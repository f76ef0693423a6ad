/-
# FarmLedger.Record.Outline — outlines as records

A table is written as a record of its columns in order, its constraints and its indexes by
ascending name, and the columns that a matcher may name.
-/
import FarmLedger.Record.Json
import FarmLedger.Schema.Outline

namespace FarmLedger

open FarmLedger.Record FarmLedger.Time

def Record.Json.texts (texts : List String) : Json :=
  .list (texts.map .text)

def ColumnOutline.toJson (outline : ColumnOutline) : Json :=
  .object [("name", .text outline.name), ("nullable", .flag outline.nullable),
    (Dialect.postgresql.name, .text (outline.sqlType .postgresql)),
    (Dialect.sqlite.name, .text (outline.sqlType .sqlite))]

/-- What a constraint asks for, as members of a record. -/
def Demand.members : Demand → List (String × Json)
  | primary columns => [("kind", .text "PrimaryKeyConstraint"), ("columns", .texts columns)]
  | unique columns => [("kind", .text "UniqueConstraint"), ("columns", .texts columns)]
  | check condition => [("kind", .text "CheckConstraint"), ("check", .text condition)]

def ConstraintOutline.toJson (outline : ConstraintOutline) : Json :=
  .object (("name", .text outline.name) :: outline.demand.members)

def IndexOutline.toJson (outline : IndexOutline) : Json :=
  .object [("name", .text outline.name), ("unique", .flag outline.unique),
    ("columns", .texts outline.columns), ("where", .ofOption .text outline.condition)]

def Schema.toJson (schema : Schema) : Json :=
  let constraints := schema.constraintOutlines.mergeSort fun a b => a.name ≤ b.name
  let indexes := schema.indexOutlines.mergeSort fun a b => a.name ≤ b.name
  .object [("columns", .list (schema.columnOutlines.map ColumnOutline.toJson)),
    ("constraints", .list (constraints.map ConstraintOutline.toJson)),
    ("indexes", .list (indexes.map IndexOutline.toJson)),
    ("matchable", .texts (schema.matchable.map schema.name)),
    ("case_insensitive", .texts (schema.folded.mergeSort fun a b => a ≤ b))]

end FarmLedger
