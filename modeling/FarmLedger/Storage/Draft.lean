/-
# FarmLedger.Storage.Draft — what is written to a row

A `Draft` hands over the columns of a new row, a `Revision` says which columns of a row are kept
and which get something new. Both come down to an `Entry` for each column. A revision that hands
over what is there already keeps it.

`checkStamps`, `checkWidths`, `fill` and `checkConditions` say when the entries make a row. They
are applied in this order, and each looks at the columns, or the conditions, in their declared
order.
-/
import FarmLedger.Matching.Clause

namespace FarmLedger

/-- What is handed over for a new row. -/
abbrev Draft (e : Entity) : Type :=
  (column : e.Column) → Option (e.kind column).Given

/-- What becomes of a column. -/
inductive Change (kind : Kind)
  | keep
  | set (value : Option kind.Given)

abbrev Revision (e : Entity) : Type :=
  (column : e.Column) → Change (e.kind column)

/-- The part of a column in a write. -/
inductive Entry (kind : Kind)
  /-- A stored value stays. -/
  | kept (value : kind.Value)
  /-- Something is handed over. -/
  | given (value : Option kind.Given)

namespace Entry

variable {kind : Kind}

/-- The value after the write, unless one is needed and there is none. -/
def value? : Entry kind → Option kind.Value
  | .kept value => some value
  | .given value => kind.toValue value

/-- A timestamp that is handed over has to be storable. -/
def checkStamp : Entry kind → Except Failure Unit
  | .kept _ => .ok ()
  | .given value => (kind.checkStamp value).mapError .unstorable

/-- A whole number that is handed over has to fit. -/
def fits : Entry kind → Bool
  | .kept _ => true
  | .given value => kind.checkWidth value

end Entry

/-- The parts of all columns in a write. -/
abbrev Entries (e : Entity) : Type :=
  (column : e.Column) → Entry (e.kind column)

def Draft.entries {e : Entity} (draft : Draft e) : Entries e :=
  fun column => .given ((e.kind column).orDefault (draft column))

def Revision.entries {e : Entity} (revision : Revision e) (row : Row e) : Entries e :=
  fun column =>
    match revision column with
    | .keep => .kept (row column)
    | .set value =>
      if (e.kind column).same (row column) value then .kept (row column) else .given value

namespace Entries

variable {e : Entity}

def checkStamps (entries : Entries e) : Except Failure Unit :=
  e.schema.columns.forM fun column => (entries column).checkStamp

def checkWidths (entries : Entries e) : Except Failure Unit :=
  if e.schema.columns.all fun column => (entries column).fits then .ok ()
  else .error .wholeTooLarge

/-- The name of the first column that lacks a value. -/
def firstMissing (entries : Entries e) : String :=
  (e.schema.columns.find? fun column => (entries column).value?.isNone).elim "" e.schema.name

def fill (entries : Entries e) : Except Failure (Row e) :=
  if h : ∀ column ∈ e.schema.columns, (entries column).value?.isSome then
    let row : Row e :=
      ⟨fun column => (entries column).value?.get (h column (e.schema.complete column))⟩
    .ok (row.settle e.schema.columns)
  else .error (.missingValue e.table entries.firstMissing)

end Entries

/-- The row keeps the conditions of its table. -/
def Row.checkConditions {e : Entity} (row : Row e) : Except Failure Unit :=
  match e.schema.checks.find? fun check => !check.holds row with
  | some check => .error (.checkFailed check.name)
  | none => .ok ()

/-- Two rows have a key in common. -/
def Row.shares {e : Entity} (row other : Row e) (key : Key e.kind) : Bool :=
  key.covers row && key.covers other
    && key.columns.all fun column => row.text? column == other.text? column

/-- The row has no key in common with one of the others. -/
def Row.checkKeys {e : Entity} (row : Row e) (others : List (Row e)) : Except Failure Unit :=
  match e.schema.keys.find? fun key => others.any fun other => row.shares other key with
  | some key => .error (.duplicateKey e.table (key.columns.map e.schema.name))
  | none => .ok ()

end FarmLedger
