/-
# FarmLedger.Proofs.Reading.Removal — what is taken out is what is read

Rows are read in order, by time, by loan to value, or as a page without a number or a size. Every
such reader puts what is read by ascending id in some order (`IsReader.reads`), and what is read by
ascending id is what is taken out. The order does not change which rows there are.

`TakesOut` says what is taken out and what is left: the rows that were read are gone, the others
stay as they are and in their order, and no other table is touched. After that the reader finds
nothing, and taking out once more is refused.
-/
import FarmLedger.Proofs.Reading.Pages
import FarmLedger.Proofs.Reading.Pairs
import FarmLedger.Proofs.Storage.Upsert

namespace FarmLedger

variable {e : Entity} {criterion : Criterion} {database : Database} {found : List (Stored e)}
  {table : Table e} {clause : Clause e}

/-! ## Readers -/

/-- The ways to read all rows of an entity that a criterion means. -/
inductive IsReader :
    (e : Entity) → (Criterion → Database → Except Failure (List (Stored e))) → Prop
  /-- By ascending id, or by ascending time for the entities that are series. -/
  | inOrder (e : Entity) : IsReader e fun criterion => readRows e criterion none
  /-- As a page that has no number or no size. -/
  | paged (e : Entity) {number size : Option Int} (whole : number = none ∨ size = none) :
      IsReader e fun criterion database =>
        (readPage e criterion number size database).map Page.rows
  /-- By ascending loan to value. -/
  | byLtv : IsReader .v1ObligationLtv readByLtv

variable {reader : Criterion → Database → Except Failure (List (Stored e))}

/-- A reader puts what is read by ascending id in some order. -/
theorem IsReader.reads (isReader : IsReader e reader) :
    ∃ order : RowOrder e, ∀ criterion database,
      reader criterion database = (Query.rows { criterion } none database).map order.arrange := by
  cases isReader with
  | inOrder => exact ⟨_, fun criterion database => Query.rows_ordered criterion _ database⟩
  | paged _ whole =>
    refine ⟨.byId, fun criterion database => ?_⟩
    show (Query.page { criterion } _ _ database).map Page.rows = _
    rw [Query.page_unpaged whole]
    cases Query.rows ({ criterion } : Query e) none database <;> rfl
  | byLtv => exact ⟨_, fun criterion database => Query.rows_ordered criterion _ database⟩

/-! ## Taking rows out -/

theorem remove_none (asked : Query.rows ({ criterion } : Query e) none database = .ok []) :
    NotFound (remove e criterion database).result e ∧
      (remove e criterion database).database = database :=
  ⟨⟨_, _, remove_refused asked⟩, remove_error (remove_refused asked)⟩

/-- Without the rows that a clause selects, the clause selects nothing. -/
theorem select_erased :
    (table.erase fun stored => ((table.select clause).map Stored.id).contains stored.id).select
      clause = [] := by
  rw [Table.select, Table.erase_select, List.filter_filter, List.filter_eq_nil_iff]
  intro stored _
  simp

/-- The rows that were found are taken out, and nothing else is. -/
structure TakesOut (e : Entity) (criterion : Criterion)
    (reader : Criterion → Database → Except Failure (List (Stored e))) (before : Database)
    (found : List (Stored e)) : Prop where
  counted : (remove e criterion before).result = .ok found.length
  left_iff : ∀ stored, stored ∈ (remove e criterion before).database.rows e ↔
    stored ∈ before.rows e ∧ stored ∉ found
  inOrder : ((remove e criterion before).database.rows e).Sublist (before.rows e)
  others : ∀ other, other ≠ e → (remove e criterion before).database other = before other
  gone : reader criterion (remove e criterion before).database = .ok []
  /-- There is nothing left to be taken out once more. -/
  again : NotFound (remove e criterion (remove e criterion before).database).result e
  settled : (remove e criterion (remove e criterion before).database).database =
    (remove e criterion before).database

/-- What is read is gone once it is taken out. -/
theorem remove_gone (asked : Query.rows ({ criterion } : Query e) none database = .ok found)
    (some_ : found ≠ []) :
    Query.rows ({ criterion } : Query e) none (remove e criterion database).database = .ok [] := by
  obtain ⟨table, stands, _, removed⟩ := remove_found asked some_
  obtain ⟨clause, table', compiled, checked, stands', rfl⟩ := Database.read_iff.1 asked
  obtain rfl : table' = table := Option.some.inj (stands'.symm.trans stands)
  rw [removed]
  refine Database.read_iff.2 ⟨clause, _, compiled, checked, Database.put_same _ _, ?_⟩
  exact select_erased.symm

theorem takesOut {order : RowOrder e}
    (reads : ∀ criterion database,
      reader criterion database = (Query.rows { criterion } none database).map order.arrange)
    (asked : Query.rows ({ criterion } : Query e) none database = .ok found) (some_ : found ≠ []) :
    TakesOut e criterion reader database (order.arrange found) := by
  obtain ⟨_, _, counted, _⟩ := remove_found asked some_
  have gone := remove_gone asked some_
  obtain ⟨again, settled⟩ := remove_none gone
  refine ⟨?_, fun stored => ?_, remove_sublist criterion database, fun other different => ?_,
    ?_, again, settled⟩
  · rw [counted, (order.arrange_perm _).length_eq]
  · rw [mem_removed asked, RowOrder.mem_arrange]
  · exact remove_other criterion database different.symm
  · rw [reads, gone]
    exact congrArg Except.ok (order.arrange_perm []).eq_nil

/-! ## The result -/

/-- **Taking rows out takes out what is read.** However the rows of an entity are read that a
criterion means, taking them out fails where reading them does. It is refused exactly if none is
read, and changes nothing then. Else it counts the rows that are read and takes these out and
nothing else. All rows that an accepted criterion means can be read. -/
theorem removes_what_is_read (isReader : IsReader e reader) (criterion : Criterion)
    (database : Database) :
    (∀ found, reader criterion database = .ok found →
      (NotFound (remove e criterion database).result e ↔ found = []) ∧
      (found = [] → (remove e criterion database).database = database) ∧
      (found ≠ [] → TakesOut e criterion reader database found)) ∧
    (∀ failure, reader criterion database = .error failure →
      (remove e criterion database).result = .error failure ∧
        (remove e criterion database).database = database) ∧
    ∀ table, database e = some table → criterion.Accepted e false →
      ∃ found, reader criterion database = .ok found := by
  obtain ⟨order, reads⟩ := isReader.reads
  rw [reads]
  refine ⟨fun found read => ?_, fun failure read => ?_, fun table stands accepted => ?_⟩
  · obtain ⟨selected, asked, rfl⟩ := ok_of_map read
    by_cases none_ : selected = []
    · subst none_
      obtain ⟨refused, kept⟩ := remove_none asked
      have nothing : order.arrange [] = [] := (order.arrange_perm []).eq_nil
      exact ⟨iff_of_true refused nothing, fun _ => kept, fun some_ => absurd nothing some_⟩
    · have taken := takesOut reads asked none_
      have something : order.arrange selected ≠ [] := by
        intro nothing
        exact none_ (List.nil_perm.1 (nothing ▸ order.arrange_perm selected))
      refine ⟨iff_of_false ?_ something, fun nothing => absurd nothing something, fun _ => taken⟩
      rw [taken.counted]
      exact not_notFound_ok _
  · have failed := remove_failed (error_of_map read)
    exact ⟨failed, remove_error failed⟩
  · obtain ⟨clause, compiled, checked⟩ := accepted
    rw [Database.read_iff.2 ⟨clause, table, compiled, checked, stands, rfl⟩]
    exact ⟨_, rfl⟩

/-- Averages of two pairs that share their asset, in another spelling. -/
def rayAverages : Criterion :=
  .matcher (.byFields ["platform", "asset"] [[some "orca", some "ray"], [some "Tulip", some "Ray"]])

/-- Two of three averages are taken out, and the samples stay. -/
theorem rayAverages_removed :
    ∃ found, readRows .interestRateMovingAverage rayAverages none sampledAndStarted = .ok found ∧
      found.map Stored.id = [1, 4] ∧
      TakesOut .interestRateMovingAverage rayAverages
        (fun criterion => readRows .interestRateMovingAverage criterion none) sampledAndStarted
        found := by
  have read : readRows .interestRateMovingAverage rayAverages none sampledAndStarted =
      .ok [averageOf 1 "TULIP" "RAY", averageOf 4 "ORCA" "RAY"] := rfl
  obtain ⟨_, _, taken⟩ := (removes_what_is_read (.inOrder .interestRateMovingAverage) rayAverages
    sampledAndStarted).1 _ read
  exact ⟨_, read, rfl, taken (by simp)⟩

end FarmLedger
