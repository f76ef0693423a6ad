/-
# FarmLedger.Proofs.Reading.Instants — tables decide by instants

Whatever clocks wrote the timestamps of a table, the table holds moments in UTC, and one moment is
not after another exactly if the instants of their timestamps are so (`Timestamp.le_iff_instant`).
Tables compare timestamps in three ways: a condition keeps a row's end from coming before its start,
a span keeps the rows between two timestamps, and an order puts rows by their time. All three decide
by instants (`DecidesByInstant`), which is what `stored_by_instant` adds to the promises of the
dialects (`Dialect.faithful`).
-/
import FarmLedger.Proofs.Positions.Liquidation
import FarmLedger.Proofs.Prices.Recorded
import FarmLedger.Proofs.Rates.Recorded
import FarmLedger.Proofs.Reading.Rows
import FarmLedger.Proofs.Time.Stored

namespace FarmLedger

open FarmLedger.Time

variable {e : Entity} {start finish : Timestamp} {first last : Moment}

/-! ## Conditions, spans and orders -/

/-- The record of a liquidation keeps its condition if its end, if any, is not before its start. -/
theorem checkConditions_liquidation {row : Row .v1LiquidatedPosition} :
    row.checkConditions = .ok () ↔
      Schema.notBefore (row .startedAt) (row .endedAt) = true := by
  refine ⟨notBefore_of_conditions, fun ordered => ?_⟩
  unfold Row.checkConditions
  simp [ordered]

theorem notBefore_iff {finish? : Option Timestamp} {last? : Option Moment}
    (begins : start.toStored = .ok first)
    (ends : finish?.map Timestamp.toStored = last?.map .ok) :
    Schema.notBefore first last? = true ↔ ∀ finish ∈ finish?, start.instant ≤ finish.instant := by
  cases finish? with
  | none =>
    obtain rfl : last? = none := by simpa using ends.symm
    exact ⟨fun _ _ => nofun, fun _ => rfl⟩
  | some finish =>
    obtain ⟨last, rfl, same⟩ : ∃ last, last? = some last ∧ .ok last = finish.toStored := by
      simpa using ends.symm
    have compared := Timestamp.le_iff_instant begins same.symm
    simp [Schema.notBefore, compared]

theorem withinSpan_iff {keeps : Row .historicTsharePrice → Bool} {taken : Timestamp}
    {row : Row .historicTsharePrice} (asked : withinSpan start finish = .ok keeps)
    (stored : taken.toStored = .ok (row .scrapedAt)) :
    keeps row = true ↔ start.instant ≤ taken.instant ∧ taken.instant ≤ finish.instant := by
  unfold withinSpan at asked
  obtain ⟨first, begins, asked⟩ := ok_of_bind asked
  obtain ⟨last, ends, asked⟩ := ok_of_bind asked
  cases asked
  rw [Bool.and_eq_true, decide_eq_true_eq, decide_eq_true_eq,
    Timestamp.le_iff_instant (ok_of_mapError begins) stored,
    Timestamp.le_iff_instant stored (ok_of_mapError ends)]

section Order

variable {time : Row e → Moment} {written : Stored e → Timestamp} {rows : List (Stored e)}

theorem ascending_by_instant
    (stored_ : ∀ stored ∈ rows, (written stored).toStored = .ok (time stored.row)) :
    ((RowOrder.ascending time).arrange rows).Pairwise fun a b =>
      (written a).instant ≤ (written b).instant := by
  refine (RowOrder.pairwise_ascending time rows).imp_of_mem fun memA memB earlier => ?_
  rw [RowOrder.mem_arrange] at memA memB
  exact (Timestamp.le_iff_instant (stored_ _ memA) (stored_ _ memB)).1 earlier

theorem descending_by_instant
    (stored_ : ∀ stored ∈ rows, (written stored).toStored = .ok (time stored.row)) :
    ((RowOrder.descending time).arrange rows).Pairwise fun a b =>
      (written b).instant ≤ (written a).instant := by
  refine (RowOrder.pairwise_descending time rows).imp_of_mem fun memA memB later => ?_
  rw [RowOrder.mem_arrange] at memA memB
  exact (Timestamp.le_iff_instant (stored_ _ memB) (stored_ _ memA)).1 later

end Order

/-! ## The result -/

/-- Wherever a table compares timestamps that were stored, it compares their instants: in the
conditions on liquidations, prices and averages, in the span of a question for share prices, and in
putting rows in order. -/
structure DecidesByInstant : Prop where
  liquidations : ∀ (row : Row .v1LiquidatedPosition) (start : Timestamp)
    (finish? : Option Timestamp), start.toStored = .ok (row .startedAt) →
    finish?.map Timestamp.toStored = (row .endedAt : Option Moment).map .ok →
    (row.checkConditions = .ok () ↔ ∀ finish ∈ finish?, start.instant ≤ finish.instant)
  prices : ∀ (row : Row .tokenPrice) (start finish : Timestamp),
    start.toStored = .ok (row .periodStart) → finish.toStored = .ok (row .periodEnd) →
    (row.checkConditions = .ok () ↔ start.instant ≤ finish.instant)
  averages : ∀ (row : Row .interestRateMovingAverage) (start finish : Timestamp),
    start.toStored = .ok (row .periodStart) → finish.toStored = .ok (row .periodEnd) →
    (row.checkConditions = .ok () ↔ start.instant ≤ finish.instant)
  spans : ∀ (start finish taken : Timestamp) (keeps : Row .historicTsharePrice → Bool)
    (row : Row .historicTsharePrice), withinSpan start finish = .ok keeps →
    taken.toStored = .ok (row .scrapedAt) →
    (keeps row = true ↔ start.instant ≤ taken.instant ∧ taken.instant ≤ finish.instant)
  orders : ∀ (e : Entity) (time : Row e → Moment) (written : Stored e → Timestamp)
    (rows : List (Stored e)),
    (∀ stored ∈ rows, (written stored).toStored = .ok (time stored.row)) →
    (((RowOrder.ascending time).arrange rows).Pairwise fun a b =>
        (written a).instant ≤ (written b).instant) ∧
      ((RowOrder.descending time).arrange rows).Pairwise fun a b =>
        (written b).instant ≤ (written a).instant

theorem decidesByInstant : DecidesByInstant where
  liquidations _ _ _ begins ends := by
    rw [checkConditions_liquidation, notBefore_iff begins ends]
  prices _ _ _ begins ends := by
    rw [checkConditions_tokenPrice, Timestamp.le_iff_instant begins ends]
  averages _ _ _ begins ends := by
    rw [checkConditions_average, Timestamp.le_iff_instant begins ends]
  spans _ _ _ _ _ := withinSpan_iff
  orders _ _ _ _ stored_ := ⟨ascending_by_instant stored_, descending_by_instant stored_⟩

/-- **Stored timestamps stand for instants.** In either dialect a timestamp is refused exactly if
its distance from UTC is unknown or its instant lies outside of the calendar; all others are read
back as the same instant, in UTC, and compare as their instants do, whatever their offsets are. The
tables hold the moment that the stored form shows, and so conditions, spans and orders decide by
instants. -/
theorem stored_by_instant :
    (∀ dialect : Dialect, dialect.Faithful ∧
      ∀ t, (dialect.store t).map Timestamp.wall = t.toStored) ∧ DecidesByInstant :=
  ⟨fun dialect => ⟨dialect.faithful, dialect.store_wall⟩, decidesByInstant⟩

/-- What a clock that is an hour ahead of UTC shows so many microseconds into the first day. -/
def hourAhead (micros : Nat) : Timestamp where
  wall := ⟨micros % microsPerDay, Nat.lt_trans (Nat.mod_lt micros (by decide)) (by decide)⟩
  offset := some ⟨60 * 60 * microsPerSecond, by decide⟩

/-- At midnight of the first day a clock that is ahead of UTC shows what is not in the calendar. An
hour later it shows its beginning, which is before what a clock in UTC shows then. -/
theorem hourAhead_stored :
    Dialect.sqlite.store (hourAhead 0) = .error .outOfCalendar ∧
      ∃ form other, Dialect.sqlite.store (hourAhead (60 * 60 * microsPerSecond)) = .ok form ∧
        Dialect.sqlite.store (.ofUtc (Moment.early 1)) = .ok other ∧
        form.wall ≤ other.wall ∧ ¬ other.wall ≤ form.wall := by
  obtain ⟨refuses, _, orders⟩ := (stored_by_instant.1 .sqlite).1
  have begins : Dialect.sqlite.store (hourAhead (60 * 60 * microsPerSecond)) =
      .ok ⟨Moment.early 0, none⟩ := by decide
  have next : Dialect.sqlite.store (.ofUtc (Moment.early 1)) = .ok ⟨Moment.early 1, none⟩ := by
    decide
  refine ⟨(refuses _ _).2 (.inr ⟨by decide, ?_, rfl⟩), _, _, begins, next, ?_, ?_⟩
  · unfold Timestamp.InCalendar
    decide
  · exact (orders _ _ _ _ begins next).1 (by decide)
  · exact mt (orders _ _ _ _ next begins).2 (by decide)

end FarmLedger
