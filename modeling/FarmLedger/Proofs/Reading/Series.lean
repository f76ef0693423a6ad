/-
# FarmLedger.Proofs.Reading.Series — limited reads are the newest end of a series

Three entities are series. Read without a limit they come by ascending time, and with a limit by
descending time, which is another query. Both put the same rows in order, so the limited one has the
newest of the rows that the other one reads (`newest_take`): what it leaves out is never newer than
what it returns.

Which of several rows of one time come is left to the order. Where all times are different the one
order is the reverse of the other (`reverse_ascending`), and the limited read is the beginning of
the reversed read. Times are compared as instants: a table holds moments in UTC, whatever the offset
of the clock was that showed them (`Timestamp.instant_of_toStored`).
-/
import FarmLedger.Proofs.Reading.Rows

namespace FarmLedger

open FarmLedger.Time

/-! ## The newest of some rows -/

section Newest

variable {e : Entity} {rows all newest : List (Stored e)} {time : Row e → Moment}

/-- So many of the rows at most, the newest first, and none left out that is newer. -/
structure Newest (time : Row e → Moment) (all : List (Stored e)) (count : Nat)
    (newest : List (Stored e)) : Prop where
  length : newest.length = min count all.length
  distinct : (newest.map Stored.id).Nodup
  among : ∀ stored ∈ newest, stored ∈ all
  descending : newest.Pairwise fun a b => time b.row ≤ time a.row
  leavesOlder : ∀ omitted ∈ all, omitted ∉ newest → ∀ returned ∈ newest,
    time omitted.row ≤ time returned.row

theorem newest_take (ids : (rows.map Stored.id).Pairwise (· < ·)) (perm : all.Perm rows)
    (count : Nat) :
    Newest time all count (((RowOrder.descending time).arrange rows).take count) := by
  have ordered := RowOrder.pairwise_descending time rows
  have same := (RowOrder.arrange_perm (.descending time) rows).trans perm.symm
  refine ⟨?_, ?_, ?_, ordered.sublist (List.take_sublist count _), ?_⟩
  · rw [List.length_take, same.length_eq]
  · exact (RowOrder.nodup_arrange (.descending time) ids).sublist
      ((List.take_sublist count _).map Stored.id)
  · intro stored mem
    exact same.mem_iff.1 (List.mem_of_mem_take mem)
  · intro omitted mem left returned taken
    -- What is left out stands behind what is returned.
    have whole := List.take_append_drop count ((RowOrder.descending time).arrange rows)
    have behind : omitted ∈ ((RowOrder.descending time).arrange rows).drop count := by
      have mem := same.mem_iff.2 mem
      rw [← whole, List.mem_append] at mem
      exact mem.resolve_left left
    rw [← whole, List.pairwise_append] at ordered
    exact ordered.2.2 returned taken omitted behind

theorem reverse_ascending (rows : List (Stored e))
    (distinct : ((RowOrder.ascending time).arrange rows).Pairwise fun a b =>
      time a.row ≠ time b.row) :
    ((RowOrder.ascending time).arrange rows).reverse = (RowOrder.descending time).arrange rows := by
  rw [List.reverse_eq_iff]
  refine RowOrder.eq_of_ascending (RowOrder.pairwise_ascending time rows) ?_ ?_ distinct
  · exact List.pairwise_reverse.2 (RowOrder.pairwise_descending time rows)
  · exact (RowOrder.arrange_perm _ rows).trans
      ((RowOrder.arrange_perm _ rows).symm.trans (List.reverse_perm _).symm)

end Newest

/-! ## Series -/

/-- The entities that are series. -/
inductive Series
  | interestRate
  | vaultTvl
  | realizeYield
  deriving DecidableEq, Repr

namespace Series

@[reducible] def entity : Series → Entity
  | interestRate => .interestRate
  | vaultTvl => .vaultTvl
  | realizeYield => .realizeYield

def time : (series : Series) → Row series.entity → Moment
  | interestRate => fun row => row .scrapedAt
  | vaultTvl => fun row => row .scrapedAt
  | realizeYield => fun row => row .scrapedAt

variable (series : Series)

theorem readOrder_unlimited : series.entity.readOrder false = .ascending series.time := by
  cases series <;> rfl

theorem readOrder_limited : series.entity.readOrder true = .descending series.time := by
  cases series <;> rfl

end Series

variable {series : Series} {m : Matcher} {clause : Clause series.entity}
  {table : Table series.entity} {database : Database}

theorem readSeries (stands : database series.entity = some table)
    (compiled : (Criterion.matcher m).compile series.entity = .ok clause)
    (checked : clause.check false = .ok ()) :
    readRows series.entity (.matcher m) none database =
      .ok ((RowOrder.ascending series.time).arrange (table.select clause)) := by
  unfold readRows
  rw [Option.isSome_none, series.readOrder_unlimited, Database.read_ordered _ compiled stands,
    checked]
  rfl

theorem readSeries_limited {count : Nat} (stands : database series.entity = some table)
    (compiled : (Criterion.matcher m).compile series.entity = .ok clause)
    (checked : clause.check false = .ok ()) (fits : Kind.fitsWord count = true) :
    readRows series.entity (.matcher m) (some count) database =
      .ok (((RowOrder.descending series.time).arrange (table.select clause)).take count) := by
  have asked := Database.read_ordered (.descending series.time) compiled stands
  rw [checked] at asked
  unfold readRows
  rw [Option.isSome_some, series.readOrder_limited, Query.rows_limited asked fits]
  exact congrArg Except.ok (if_neg (Int.not_lt.2 (Int.natCast_nonneg count)))

/-! ## The result -/

/-- **A limited read of a series is its newest end.** Without a limit all rows that the matcher
means are read, each once, by ascending time. With a limit the newest of them are read, the newest
first; and where no two of them were taken at the same instant, whatever the offsets were of the
timestamps that they were written with, these are the last ones in reverse. -/
theorem limited_reads_are_newest (stands : database series.entity = some table)
    (accepted : (Criterion.matcher m).Accepted series.entity false) :
    ∃ found, readRows series.entity (.matcher m) none database = .ok found ∧
      (∀ stored, stored ∈ found ↔ stored ∈ table.rows ∧ m.Selects stored.row) ∧
      (found.map Stored.id).Nodup ∧
      (found.Pairwise fun a b => series.time a.row ≤ series.time b.row) ∧
      ∀ count : Nat, Kind.fitsWord count = true →
        ∃ newest, readRows series.entity (.matcher m) (some count) database = .ok newest ∧
          Newest series.time found count newest ∧
          ∀ written : Stored series.entity → Timestamp,
            (∀ stored ∈ found, (written stored).toStored = .ok (series.time stored.row)) →
            (found.Pairwise fun a b => (written a).instant ≠ (written b).instant) →
            newest = found.reverse.take count := by
  obtain ⟨clause, compiled, checked⟩ := accepted
  have ids := table.ids_select clause
  refine ⟨_, readSeries stands compiled checked, fun stored => ?_, RowOrder.nodup_arrange _ ids,
    RowOrder.pairwise_ascending series.time _, fun count fits =>
    ⟨_, readSeries_limited stands compiled checked fits,
      newest_take ids (RowOrder.arrange_perm _ _) count, fun written stored_ different => ?_⟩⟩
  · rw [RowOrder.mem_arrange, Table.mem_select compiled]
  · rw [reverse_ascending]
    refine different.imp_of_mem fun memA memB instants same => instants ?_
    rw [Timestamp.instant_of_toStored (stored_ _ memA), Timestamp.instant_of_toStored
      (stored_ _ memB), same]

/-- Figures of a farm, taken so many microseconds after the beginning. -/
def figuresAt (id micros : Nat) : Stored .vaultTvl where
  id := id
  row := ⟨fun
    | .farmName => "farm"
    | .totalShares | .totalUnderlying | .valueLocked => (1 : Float)
    | .scrapedAt => Moment.early micros⟩

/-- Figures that were not taken in the order in which they were recorded. -/
def lateFigures : Table .vaultTvl where
  rows := [figuresAt 1 40, figuresAt 2 20, figuresAt 4 30]
  ascending := by decide

/-- The second of the figures were written by a clock that is an hour ahead. -/
def clockOf (stored : Stored .vaultTvl) : Timestamp :=
  if stored.id = 2 then
    ⟨⟨20 + 3600 * microsPerSecond, by decide⟩, some ⟨3600 * microsPerSecond, by decide⟩⟩
  else .ofUtc (Series.vaultTvl.time stored.row)

/-- Two of three figures are read, the newest first. -/
theorem lateFigures_newest :
    ∃ found newest,
      readRows .vaultTvl (.matcher .all) none (Database.empty.put .vaultTvl lateFigures) =
        .ok found ∧ found.map Stored.id = [2, 4, 1] ∧
      readRows .vaultTvl (.matcher .all) (some 2) (Database.empty.put .vaultTvl lateFigures) =
        .ok newest ∧ newest = found.reverse.take 2 := by
  obtain ⟨found, read, members, distinct, ordered, limited⟩ :=
    @limited_reads_are_newest .vaultTvl .all lateFigures _
      (Database.put_same Database.empty lateFigures) ⟨_, rfl, rfl⟩
  let inOrder : List (Stored .vaultTvl) := [figuresAt 2 20, figuresAt 4 30, figuresAt 1 40]
  have perm : inOrder.Perm found := by
    have once : inOrder.Nodup := List.Nodup.of_map Stored.id (by decide)
    refine (List.perm_ext_iff_of_nodup once distinct.of_map).2 fun stored => ?_
    simp only [members, Matcher.Selects, and_true, lateFigures, inOrder, List.mem_cons,
      List.not_mem_nil, or_false]
    tauto
  obtain rfl : inOrder = found :=
    RowOrder.eq_of_ascending (by decide) ordered perm (by decide)
  obtain ⟨newest, readNewest, _, reversed⟩ := limited 2 (by decide)
  exact ⟨inOrder, newest, read, rfl, readNewest, reversed clockOf (by decide) (by decide)⟩

end FarmLedger
