/-
# FarmLedger.Matching.Clause — matchers fitted to an entity

A matcher names fields by text and may not fit an entity. `compile` fits it: it finds the columns,
brings the values into the form in which the entity keeps them, and refuses what does not fit. The
result is a `Clause`, and `Clause.holds` says which rows it selects.

A composite matcher is checked from the outside in: all its fields first, then tuple by tuple the
length and the values.

The database takes a clause as a condition written out: its tuples side by side, each with its
columns side by side, which nests as deeply as there are tuples and columns of one of them. What
is nested too deeply is no query (`Clause.check`), and neither are tuples without columns beside
another condition. A database also limits how many values one query may bring; that the values of a
matcher stay below this limit is assumed.
-/
import FarmLedger.Failure
import FarmLedger.Matching.Matcher
import FarmLedger.Schema.Assignment
import FarmLedger.Schema.Entity
import FarmLedger.Text.Upper

namespace FarmLedger

open FarmLedger.Text

abbrev Row (e : Entity) : Type :=
  Assignment fun column : e.Column => (e.kind column).Value

def Row.text? {e : Entity} (row : Row e) (column : e.Column) : Option String :=
  (e.kind column).asText? (row column)

/-- A condition on the rows of an entity. -/
inductive Clause (e : Entity)
  | everything
  /-- The column has one of the values. -/
  | oneOf (column : e.Column) (values : List (Option String))
  /-- Every column of one of the lists has the value beside it. -/
  | anyOf (tuples : List (List (e.Column × Option String)))

/-- The column has the value; nothing equals a missing value. -/
def Row.has {e : Entity} (row : Row e) (column : e.Column) (value : Option String) : Bool :=
  value.isSome && row.text? column == value

def Clause.holds {e : Entity} : Clause e → Row e → Bool
  | everything, _ => true
  | oneOf column values, row => values.any (row.has column)
  | anyOf tuples, row => tuples.any fun tuple => tuple.all fun part => row.has part.1 part.2

/-- How deeply the written condition is nested; a condition that is not a row of comparisons is
not. -/
def Clause.depth {e : Entity} : Clause e → Nat
  | anyOf (tuple :: tuples) => if tuple.isEmpty then 0 else tuples.length + 1 + tuple.length
  | _ => 0

/-- Nothing would be written between the parentheses of the condition. -/
def Clause.isBare {e : Entity} : Clause e → Bool
  | anyOf (tuple :: _ :: _) => tuple.isEmpty
  | _ => false

/-- The clause is a query, alone or beside another condition. -/
def Clause.check {e : Entity} (clause : Clause e) (beside : Bool) : Except Failure Unit :=
  if beside && clause.isBare then .error (.condition .empty)
  else if conditionDepthLimit ≤ clause.depth + beside.toNat then .error (.condition .tooDeep)
  else .ok ()

namespace Entity

/-- A value in the form in which the entity keeps the values of a field. -/
def canonical (e : Entity) (field value : String) : String :=
  if e.schema.folds field then upper value else value

/-- The same for a value that may be missing; upper case needs a value. -/
def canonical? (e : Entity) (field : String) : Option String → Except Failure (Option String)
  | some value => .ok (some (e.canonical field value))
  | none => if e.schema.folds field then .error (.unfit missingKind (.lacks "upper")) else .ok none

/-- The column that a matcher's field names. -/
def matchColumn (e : Entity) (field : String) : Except Failure e.Column :=
  match e.schema.matchable? field with
  | some column => .ok column
  | none => .error (.unmatchableField e.table field)

end Entity

/-- A tuple beside the columns of its fields. -/
def compileTuple {e : Entity} (m : Matcher) (fields : List (String × e.Column))
    (tuple : List (Option String)) : Except Failure (List (e.Column × Option String)) :=
  if tuple.length ≠ fields.length then
    .error (.tupleLength m.describe tuple.length fields.length)
  else
    (fields.zip tuple).mapM fun ((field, column), value) => do
      let value ← e.canonical? field value
      pure (column, value)

def Matcher.compile (m : Matcher) (e : Entity) : Except Failure (Clause e) :=
  match m with
  | .all => .ok .everything
  | .byField field values => do
    let column ← e.matchColumn field
    let values ← values.mapM (e.canonical? field)
    pure (.oneOf column values)
  | .byFields fields tuples => do
    let columns ← fields.mapM e.matchColumn
    let tuples ← tuples.mapM (compileTuple m (fields.zip columns))
    pure (.anyOf tuples)

def Criterion.compile (criterion : Criterion) (e : Entity) : Except Failure (Clause e) :=
  match criterion with
  | .matcher m => m.compile e
  | .other kind => .error (.notAMatcher kind)

end FarmLedger
