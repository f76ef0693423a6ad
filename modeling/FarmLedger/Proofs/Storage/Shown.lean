/-
# FarmLedger.Proofs.Storage.Shown — what a column shows of what was handed over

`Kind.Holds` and `Kind.Stores` (FarmLedger.Proofs.Storage.Values) follow the two ways in which a
write fills a column. Whoever reads the column later does not know the way: `Kind.Shows` says, kind
by kind, what can be told from the value. Texts, whole numbers, flags and bytes are those that were
handed over, doubles are equal, moments are the same instant, and lists are equal item by item
unless they are the very list.

`Kind.Stores.shows` is the link. A row that a draft made shows the draft (`Draft.shows`), and a
revision shows in the columns that it sets (`Revision.shows`). Rows that show a draft have its
texts, which is all that a clause looks at (`Row.ShowsAll.holds_eq`).
-/
import FarmLedger.Proofs.Storage.Values

namespace FarmLedger

open FarmLedger.Number FarmLedger.Record FarmLedger.Time

/-! ## One column -/

/-- What can be told from the value of a column about what was handed over for it. -/
def Kind.Shows : (kind : Kind) → kind.Value → Option kind.Given → Prop
  | text, value, given => given = some value
  | whole, value, given => given = some value
  | bytes, value, given => given = some value
  | flag, value, given => given.getD false = value
  | real, value, given => ∃ number : Float, given = some number ∧ (value == number) = true
  | moment, value, given => given.map Timestamp.toStored = some (.ok value)
  | optionalMoment, value, given => given.map Timestamp.toStored = value.map .ok
  | reals, value, given => value = given ∨
      ∃ items handed, value = some items ∧ given = some handed ∧ sameReals items handed = true
  | texts, value, (given : Option Json) =>
      value = given.getD .null ∨ Json.same value (given.getD .null) = true
  | wholes, value, (given : Option Json) =>
      value = given.getD .null ∨ Json.same value (given.getD .null) = true

def Kind.handedText? : (kind : Kind) → Option kind.Given → Option String
  | text, given => given
  | _, _ => none

namespace Kind

variable {kind : Kind} {value : kind.Value} {given : Option kind.Given}

/-- **What is stored shows.** -/
theorem Stores.shows (stores : kind.Stores value given) : kind.Shows value given := by
  cases kind with
  | text => exact Holds.handed (stores.imp_right And.left)
  | whole =>
    rcases stores with same | ⟨kept, _⟩
    · exact (eq_of_beq same).symm
    · exact kept
  | flag =>
    rcases stores with same | ⟨kept, _⟩
    · exact congrArg (Option.getD · false) (eq_of_beq same).symm
    · exact congrArg (Option.getD · false) kept
  | bytes =>
    rcases stores with same | ⟨kept, _⟩
    · cases given with
      | none => cases same
      | some handed => exact congrArg some (ByteArray.ext (eq_of_beq same).symm)
    · exact kept
  | real =>
    cases given with
    | none => rcases stores with same | ⟨kept, _⟩ <;> contradiction
    | some number => exact ⟨number, rfl, Holds.real (stores.imp_right And.left)⟩
  | moment => exact stores.moment
  | optionalMoment => exact stores.optionalMoment
  | reals =>
    rcases stores with same | ⟨kept, _⟩
    · cases value with
      | none =>
        cases given with
        | none => exact .inl rfl
        | some _ => cases same
      | some items =>
        cases given with
        | none => cases same
        | some handed => exact .inr ⟨items, handed, rfl, rfl, same⟩
    · exact .inl (Option.some.inj kept).symm
  | texts => exact stores.symm.imp (fun kept => (Option.some.inj kept.1).symm) id
  | wholes => exact stores.symm.imp (fun kept => (Option.some.inj kept.1).symm) id

/-- What stands in for nothing shows as nothing. -/
theorem Shows.ofDefault (shows_ : kind.Shows value (kind.orDefault given)) :
    kind.Shows value given := by
  cases kind <;> exact shows_

theorem Shows.text? (shows_ : kind.Shows value given) :
    kind.asText? value = kind.handedText? given := by
  cases kind with
  | text => exact (show given = some value from shows_).symm
  | _ => rfl

end Kind

/-! ## Rows -/

variable {e : Entity} {draft : Draft e} {row : Row e}

/-- Every column of the row shows what the draft hands over. -/
def Row.ShowsAll (row : Row e) (draft : Draft e) : Prop :=
  ∀ column, (e.kind column).Shows (row column) (draft column)

theorem Draft.shows (stamps : draft.entries.checkStamps = .ok ())
    (filled : draft.entries.fill = .ok row) : row.ShowsAll draft :=
  fun column => (Draft.stores stamps filled column).shows.ofDefault

theorem Revision.shows {revision : Revision e} {old : Row e}
    (stamps : (revision.entries old).checkStamps = .ok ())
    (filled : (revision.entries old).fill = .ok row) (column : e.Column)
    {given : Option (e.kind column).Given} (set : revision column = .set given) :
    (e.kind column).Shows (row column) given :=
  (Revision.stores stamps filled column set).shows

/-! ## Clauses -/

def Draft.text? (draft : Draft e) (column : e.Column) : Option String :=
  (e.kind column).handedText? (draft column)

/-- The clause selects whatever has these texts. -/
def Clause.selects (clause : Clause e) (texts : e.Column → Option String) : Bool :=
  let has (column : e.Column) (value : Option String) := value.isSome && texts column == value
  match clause with
  | .everything => true
  | .oneOf column values => values.any (has column)
  | .anyOf tuples => tuples.any fun tuple => tuple.all fun part => has part.1 part.2

/-- A criterion selects the draft of a row, if it fits the entity at all. -/
def Criterion.selects (criterion : Criterion) (draft : Draft e) : Bool :=
  match criterion.compile e with
  | .ok clause => clause.selects draft.text?
  | .error _ => false

end FarmLedger
