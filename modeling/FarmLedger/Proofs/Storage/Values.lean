/-
# FarmLedger.Proofs.Storage.Values — what a write leaves in a column

A column that is handed something equals it afterwards, but only by value: what equals the old
value already is not written, a zero loses its sign, and a list that was the same item by item
stays the one that it was. `Kind.Holds` says this for a column of any kind, and `Kind.Holds.real`,
`Kind.Holds.text` and the others read it off for the kinds of windows and prices.

What cannot be stored is never written: of a timestamp that was handed over the column holds the
moment (`Kind.Stores`).

Rows come from entries by `Entries.fill`. `Draft.holds`, `Revision.holds` and `Revision.keeps` say
what its columns are then; whoever reasons about rows need not open `fill`. The other way round,
entries that a column of each kind takes (`Kind.Takes`) do fill a row: `Draft.fills` and
`Revision.fills`.
-/
import FarmLedger.Proofs.Except
import FarmLedger.Proofs.Number.Alike
import FarmLedger.Proofs.Time.Moment
import FarmLedger.Storage.Draft

namespace FarmLedger

open FarmLedger.Number FarmLedger.Time

/-! ## One column -/

/-- The value equals what was handed over, or it is what a table keeps of it. -/
def Kind.Holds (kind : Kind) (value : kind.Value) (given : Option kind.Given) : Prop :=
  kind.same value given = true ∨ kind.toValue given = some value

namespace Kind.Holds

/-- A text that a column holds was handed over. -/
theorem handed {value : String} {given : Option String} (holds : Kind.text.Holds value given) :
    given = some value := by
  rcases holds with same | kept
  · exact (eq_of_beq same).symm
  · exact kept

theorem text {value given : String} (holds : Kind.text.Holds value (some given)) :
    value = given :=
  (Option.some.inj holds.handed).symm

theorem flag {value given : Bool} (holds : Kind.flag.Holds value (some given)) :
    value = given := by
  rcases holds with same | kept
  · exact Option.some.inj (eq_of_beq same)
  · exact (Option.some.inj kept).symm

theorem real {value given : Float} (holds : Kind.real.Holds value (some given)) :
    (value == given) = true := by
  rcases holds with same | kept
  · exact same
  · simp only [Kind.toValue, Option.bind_some] at kept
    split at kept
    · cases kept
    · next number =>
      rw [← Option.some.inj kept]
      exact plainZero_beq (Bool.not_eq_true _ ▸ number)

theorem stamp {value given : Moment} {stamp : Timestamp}
    (holds : Kind.moment.Holds value (some stamp)) (instant : stamp.instant = given.micros)
    (stored : stamp.toStored = .ok given) : value = given := by
  rcases holds with same | kept
  · have both : (stamp.offset.isSome && stamp.instant == (value.micros : Int)) = true := same
    rw [Bool.and_eq_true, beq_iff_eq, instant] at both
    exact Moment.eq_of_micros (Int.ofNat_inj.1 both.2).symm
  · simp only [Kind.toValue, Option.bind_some, stored] at kept
    exact (Option.some.inj kept).symm

theorem moment {value given : Moment} (holds : Kind.moment.Holds value (some (.ofUtc given))) :
    value = given :=
  holds.stamp (Timestamp.instant_ofUtc given) (Timestamp.toStored_ofUtc given)

theorem reals {value : Option (List Float)} {given : List Float}
    (holds : Kind.reals.Holds value (some given)) :
    ∃ items, value = some items ∧ (items = given ∨ sameReals items given = true) := by
  rcases holds with same | kept
  · cases value with
    | none => cases same
    | some items => exact ⟨items, rfl, .inr same⟩
  · exact ⟨given, (Option.some.inj kept).symm, .inl rfl⟩

end Kind.Holds

/-- What was handed over for the column can be stored, or equals what is there. -/
def Kind.Stores (kind : Kind) (value : kind.Value) (given : Option kind.Given) : Prop :=
  kind.same value given = true ∨ kind.toValue given = some value ∧ kind.checkStamp given = .ok ()

namespace Kind.Stores

theorem toStored_of_isMoment {value : Moment} {stamp : Timestamp}
    (same : Kind.same.isMoment value stamp = true) : stamp.toStored = .ok value := by
  have both : (stamp.offset.isSome && stamp.instant == (value.micros : Int)) = true := same
  rw [Bool.and_eq_true, beq_iff_eq] at both
  have known : stamp.offset.isNone = false := by
    rw [← Option.not_isSome, both.1]
    rfl
  exact Timestamp.toStored_of_instant known both.2

/-- A moment is that of the timestamp. -/
theorem moment {value : Moment} {given : Option Timestamp}
    (stores : Kind.moment.Stores value given) :
    given.map Timestamp.toStored = some (.ok value) := by
  cases given with
  | none => rcases stores with same | ⟨kept, _⟩ <;> contradiction
  | some stamp =>
    rw [Option.map_some]
    rcases stores with same | ⟨kept, storable⟩
    · rw [toStored_of_isMoment same]
    · obtain ⟨stored, keeps, _⟩ := ok_of_map storable
      have kept : stamp.toStored.toOption = some value := kept
      rw [keeps] at kept ⊢
      rw [Option.some.inj kept]

/-- A moment that may be missing is that of the timestamp, or missing as it is. -/
theorem optionalMoment {value : Option Moment} {given : Option Timestamp}
    (stores : Kind.optionalMoment.Stores value given) :
    given.map Timestamp.toStored = value.map .ok := by
  rcases stores with same | ⟨kept, storable⟩
  · cases value with
    | none =>
      cases given with
      | none => rfl
      | some _ => cases same
    | some moment =>
      cases given with
      | none => cases same
      | some stamp => rw [Option.map_some, Option.map_some, toStored_of_isMoment same]
  · have value_ : value = given.bind fun stamp => stamp.toStored.toOption :=
      (Option.some.inj kept).symm
    cases given with
    | none =>
      rw [value_]
      rfl
    | some stamp =>
      obtain ⟨stored, keeps, _⟩ := ok_of_map storable
      rw [value_, Option.bind_some, Option.map_some, keeps]
      rfl

end Kind.Stores

/-- A column takes what is handed over. -/
structure Kind.Takes (kind : Kind) (given : Option kind.Given) : Prop where
  storable : kind.checkStamp given = .ok ()
  width : kind.checkWidth given = true
  value : (kind.toValue given).isSome = true

namespace Kind.Takes

theorem text (given : String) : Kind.text.Takes (some given) :=
  ⟨rfl, rfl, rfl⟩

theorem flag (given : Bool) : Kind.flag.Takes (some given) :=
  ⟨rfl, rfl, rfl⟩

theorem real {given : Float} (number : given.isNaN = false) : Kind.real.Takes (some given) := by
  refine ⟨rfl, rfl, ?_⟩
  show ((some given).bind fun x => if x.isNaN then none else some (plainZero x)).isSome = true
  rw [Option.bind_some, number]
  rfl

theorem stamp {stamp : Timestamp} {given : Moment} (stored : stamp.toStored = .ok given) :
    Kind.moment.Takes (some stamp) := by
  constructor
  · simp only [Kind.checkStamp, stored]
    rfl
  · rfl
  · simp only [Kind.toValue, Option.bind_some, stored]
    rfl

theorem moment (given : Moment) : Kind.moment.Takes (some (.ofUtc given)) :=
  stamp (Timestamp.toStored_ofUtc given)

theorem reals (given : List Float) : Kind.reals.Takes (some given) :=
  ⟨rfl, rfl, rfl⟩

end Kind.Takes

/-! ## All columns of a row -/

variable {e : Entity}

theorem Entries.value?_of_fill {entries : Entries e} {row : Row e}
    (filled : entries.fill = .ok row) (column : e.Column) :
    (entries column).value? = some (row column) := by
  unfold Entries.fill at filled
  split at filled
  · simp only [Assignment.settle_eq] at filled
    cases filled
    rw [Option.some_get]
  · cases filled

theorem Entries.storable {entries : Entries e} (stamps : entries.checkStamps = .ok ())
    (column : e.Column) : (entries column).checkStamp = .ok () :=
  ok_of_forM stamps column (e.schema.complete column)

/-- Entries that are taken column by column make a row. -/
theorem Entries.fills {entries : Entries e}
    (stamps : ∀ column, (entries column).checkStamp = .ok ())
    (widths : ∀ column, (entries column).fits = true)
    (values : ∀ column, (entries column).value?.isSome = true) :
    ∃ row, entries.checkStamps = .ok () ∧ entries.checkWidths = .ok () ∧
      entries.fill = .ok row := by
  have all (columns : List e.Column) :
      (columns.forM fun column => (entries column).checkStamp) = .ok () := by
    induction columns with
    | nil => rfl
    | cons column columns ih => exact bind_ok (stamps column) ih
  refine ⟨_, all e.schema.columns, ?_, dif_pos fun column _ => values column⟩
  exact if_pos (List.all_eq_true.2 fun column _ => widths column)

theorem Draft.fills {draft : Draft e}
    (takes : ∀ column, (e.kind column).Takes ((e.kind column).orDefault (draft column))) :
    ∃ row, draft.entries.checkStamps = .ok () ∧ draft.entries.checkWidths = .ok () ∧
      draft.entries.fill = .ok row := by
  apply Entries.fills
  · intro column
    show ((e.kind column).checkStamp _).mapError Failure.unstorable = .ok ()
    rw [(takes column).storable]
    rfl
  · exact fun column => (takes column).width
  · exact fun column => (takes column).value

theorem Revision.fills {revision : Revision e} (old : Row e)
    (takes : ∀ column given, revision column = .set given → (e.kind column).Takes given) :
    ∃ row, (revision.entries old).checkStamps = .ok () ∧
      (revision.entries old).checkWidths = .ok () ∧ (revision.entries old).fill = .ok row := by
  have entry (column : e.Column) : revision.entries old column = .kept (old column) ∨
      ∃ given, revision.entries old column = .given given ∧ (e.kind column).Takes given := by
    unfold Revision.entries
    split
    · exact .inl rfl
    · next given set =>
      split
      · exact .inl rfl
      · exact .inr ⟨given, rfl, takes column given set⟩
  apply Entries.fills
  · intro column
    rcases entry column with kept | ⟨given, handed, takes⟩
    · rw [kept]
      rfl
    · rw [handed, Entry.checkStamp, takes.storable]
      rfl
  · intro column
    rcases entry column with kept | ⟨given, handed, takes⟩
    · rw [kept]
      rfl
    · rw [handed]
      exact takes.width
  · intro column
    rcases entry column with kept | ⟨given, handed, takes⟩
    · rw [kept]
      rfl
    · rw [handed]
      exact takes.value

theorem Row.checkKeys_nil (row : Row e) : row.checkKeys [] = .ok () := by
  have none_ : (e.schema.keys.find? fun key => ([] : List (Row e)).any fun other =>
      row.shares other key) = none :=
    List.find?_eq_none.2 fun _ _ => Bool.false_ne_true
  rw [Row.checkKeys, none_]

theorem Draft.holds {draft : Draft e} {row : Row e} (filled : draft.entries.fill = .ok row)
    (column : e.Column) :
    (e.kind column).Holds (row column) ((e.kind column).orDefault (draft column)) :=
  .inr (Entries.value?_of_fill filled column)

theorem Draft.stores {draft : Draft e} {row : Row e}
    (stamps : draft.entries.checkStamps = .ok ()) (filled : draft.entries.fill = .ok row)
    (column : e.Column) :
    (e.kind column).Stores (row column) ((e.kind column).orDefault (draft column)) :=
  .inr ⟨Entries.value?_of_fill filled column, ok_of_mapError (Entries.storable stamps column)⟩

theorem Revision.keeps {revision : Revision e} {old row : Row e}
    (filled : (revision.entries old).fill = .ok row) (column : e.Column)
    (keep : revision column = .keep) : row column = old column := by
  have value := Entries.value?_of_fill filled column
  simp only [Revision.entries, keep] at value
  exact (Option.some.inj value).symm

/-- A column that a revision sets stays if it equals what it is set to, and is written if not. -/
theorem Revision.same_or_written {revision : Revision e} {old row : Row e}
    (filled : (revision.entries old).fill = .ok row) (column : e.Column)
    {given : Option (e.kind column).Given} (set : revision column = .set given) :
    (row column = old column ∧ (e.kind column).same (old column) given = true) ∨
      (e.kind column).toValue given = some (row column) := by
  have value := Entries.value?_of_fill filled column
  simp only [Revision.entries, set] at value
  split at value
  · next same => exact .inl ⟨(Option.some.inj value).symm, same⟩
  · exact .inr value

theorem Revision.holds {revision : Revision e} {old row : Row e}
    (filled : (revision.entries old).fill = .ok row) (column : e.Column)
    {given : Option (e.kind column).Given} (set : revision column = .set given) :
    (e.kind column).Holds (row column) given :=
  (Revision.same_or_written filled column set).imp (fun ⟨stays, same⟩ => stays ▸ same) id

theorem Revision.stores {revision : Revision e} {old row : Row e}
    (stamps : (revision.entries old).checkStamps = .ok ())
    (filled : (revision.entries old).fill = .ok row) (column : e.Column)
    {given : Option (e.kind column).Given} (set : revision column = .set given) :
    (e.kind column).Stores (row column) given := by
  have value := Entries.value?_of_fill filled column
  have storable := Entries.storable stamps column
  simp only [Revision.entries, set] at value storable
  split at value
  · next same =>
    have kept : old column = row column := Option.some.inj value
    exact .inl (kept ▸ same)
  · next different =>
    rw [if_neg different] at storable
    exact .inr ⟨value, ok_of_mapError storable⟩

end FarmLedger
