/-
# FarmLedger.Proofs.Reading.Rows — the rows that are read

Putting rows in order neither adds a row nor loses one (`RowOrder.arrange_perm`). Put in order by a
time they ascend or descend by it (`pairwise_ascending`, `pairwise_descending`), and rows of one
time keep the order that they had (`filter_ascending`), so that rows by ascending id come out by
time and then by id (`ascending_byTimeThenId`).

What a query reads in an order is what it reads by ascending id, put in order
(`Query.rows_ordered`). With a limit that the database can count with, it is answered with the
beginning of what it reads without (`Query.rows_limited`).
-/
import FarmLedger.Ledger.Reading
import FarmLedger.Proofs.Matching.Selection
import FarmLedger.Proofs.Time.Moment
import Mathlib.Data.List.Pairwise

namespace FarmLedger

open FarmLedger.Time

variable {e : Entity} {rows found : List (Stored e)} {time : Row e → Moment}

/-! ## Putting rows in order -/

namespace RowOrder

theorem arrange_perm (order : RowOrder e) (rows : List (Stored e)) :
    (order.arrange rows).Perm rows := by
  cases order with
  | byId => exact List.Perm.refl rows
  | sorted before => exact List.mergeSort_perm rows _

theorem mem_arrange {stored : Stored e} (order : RowOrder e) :
    stored ∈ order.arrange rows ↔ stored ∈ rows :=
  (order.arrange_perm rows).mem_iff

/-- The oldest rows first. -/
def ascending (time : Row e → Moment) : RowOrder e :=
  .sorted fun a b => time a ≤ time b

/-- The newest rows first. -/
def descending (time : Row e → Moment) : RowOrder e :=
  .sorted fun a b => time b ≤ time a

theorem pairwise_sorted {before : Row e → Row e → Bool}
    (trans : ∀ a b c, before a b = true → before b c = true → before a c = true)
    (total : ∀ a b, (before a b || before b a) = true) (rows : List (Stored e)) :
    ((sorted before).arrange rows).Pairwise fun a b => before a.row b.row = true :=
  List.pairwise_mergeSort (fun a b c => trans a.row b.row c.row)
    (fun a b => total a.row b.row) rows

theorem trans_ascending (time : Row e → Moment) (a b c : Row e)
    (first : decide (time a ≤ time b) = true) (second : decide (time b ≤ time c) = true) :
    decide (time a ≤ time c) = true := by
  simp only [decide_eq_true_eq] at first second ⊢
  exact Nat.le_trans first second

theorem total_ascending (time : Row e → Moment) (a b : Row e) :
    (decide (time a ≤ time b) || decide (time b ≤ time a)) = true := by
  simp only [Bool.or_eq_true, decide_eq_true_eq]
  exact Nat.le_total _ _

theorem pairwise_ascending (time : Row e → Moment) (rows : List (Stored e)) :
    ((ascending time).arrange rows).Pairwise fun a b => time a.row ≤ time b.row :=
  (pairwise_sorted (trans_ascending time) (total_ascending time) rows).imp of_decide_eq_true

theorem pairwise_descending (time : Row e → Moment) (rows : List (Stored e)) :
    ((descending time).arrange rows).Pairwise fun a b => time b.row ≤ time a.row :=
  (pairwise_sorted (fun a b c first second => trans_ascending time c b a second first)
    (fun a b => total_ascending time b a) rows).imp of_decide_eq_true

/-- Rows of one time keep the order that they had. -/
theorem filter_ascending (time : Row e → Moment) (rows : List (Stored e)) (moment : Moment) :
    (((ascending time).arrange rows).filter fun stored => time stored.row = moment) =
      rows.filter fun stored => time stored.row = moment := by
  have inOrder : (rows.filter fun stored => time stored.row = moment).Sublist
      ((ascending time).arrange rows) := by
    refine List.sublist_mergeSort (fun a b c => trans_ascending time a.row b.row c.row)
      (fun a b => total_ascending time a.row b.row) ?_ List.filter_sublist
    refine List.pairwise_of_forall_mem_list fun a memA b memB => ?_
    have sameA := of_decide_eq_true (List.mem_filter.1 memA).2
    have sameB := of_decide_eq_true (List.mem_filter.1 memB).2
    show decide (time a.row ≤ time b.row) = true
    rw [sameA, sameB]
    exact decide_eq_true (Nat.le_refl _)
  have kept := inOrder.filter fun stored => time stored.row = moment
  rw [List.filter_filter] at kept
  simp only [Bool.and_self] at kept
  exact (kept.eq_of_length (((arrange_perm _ rows).filter _).length_eq.symm)).symm

/-- One row comes before another one: it is older, or of the same time and has the lower id. -/
def ByTimeThenId (time : Row e → Moment) (a b : Stored e) : Prop :=
  time a.row < time b.row ∨ time a.row = time b.row ∧ a.id < b.id

instance (time : Row e → Moment) (a b : Stored e) : Decidable (ByTimeThenId time a b) :=
  inferInstanceAs (Decidable (_ ∨ _))

theorem ByTimeThenId.asymm {a b : Stored e} (before : ByTimeThenId time a b) :
    ¬ByTimeThenId time b a := by
  rintro (less | ⟨same, lower⟩)
  · rcases before with other | ⟨same, _⟩
    · exact Nat.lt_asymm less other
    · exact Nat.ne_of_gt less (congrArg Moment.micros same)
  · rcases before with less | ⟨_, other⟩
    · exact Nat.ne_of_gt less (congrArg Moment.micros same)
    · exact Nat.lt_asymm lower other

/-- Time and id leave one order for some rows. -/
theorem eq_of_byTimeThenId {others : List (Stored e)}
    (ordered : rows.Pairwise (ByTimeThenId time)) (other : others.Pairwise (ByTimeThenId time))
    (same : ∀ stored, stored ∈ rows ↔ stored ∈ others) : rows = others := by
  have distinct {list : List (Stored e)} (ordered : list.Pairwise (ByTimeThenId time)) :
      list.Nodup := ordered.imp fun before equal => by
    subst equal
    exact before.asymm before
  refine List.Perm.eq_of_pairwise (fun a b _ _ before after => ?_) ordered other ?_
  · exact absurd after before.asymm
  · exact (List.perm_ext_iff_of_nodup (distinct ordered) (distinct other)).2 same

/-- Rows by ascending id, put in order by time, come by time and then by id. -/
theorem ascending_byTimeThenId (time : Row e → Moment)
    (ids : (rows.map Stored.id).Pairwise (· < ·)) :
    ((ascending time).arrange rows).Pairwise (ByTimeThenId time) := by
  rw [List.pairwise_iff_forall_sublist]
  intro a b within
  have older := List.pairwise_iff_forall_sublist.1 (pairwise_ascending time rows) within
  rcases Nat.lt_or_eq_of_le older with less | same
  · exact .inl less
  · -- Two rows of one time stand among the rows as they stood before.
    have same : time a.row = time b.row := Moment.eq_of_micros same
    have kept := within.filter fun stored => time stored.row = time b.row
    rw [filter_ascending] at kept
    simp only [same, List.filter_cons, decide_true, if_true, List.filter_nil] at kept
    have ids := (List.pairwise_map.1 ids).sublist (kept.trans List.filter_sublist)
    exact .inr ⟨same, List.rel_of_pairwise_cons ids List.mem_cons_self⟩

/-- Where no two rows are of one time, ascending by time leaves one order for them. -/
theorem eq_of_ascending {others : List (Stored e)}
    (ordered : rows.Pairwise fun a b => time a.row ≤ time b.row)
    (other : others.Pairwise fun a b => time a.row ≤ time b.row) (perm : rows.Perm others)
    (distinct : rows.Pairwise fun a b => time a.row ≠ time b.row) : rows = others := by
  refine List.Perm.eq_of_pairwise (fun a b memA memB first second => ?_) ordered other perm
  have same : time a.row = time b.row := Moment.eq_of_micros (Nat.le_antisymm first second)
  by_contra different
  have : Std.Symm fun a b : Stored e => time a.row ≠ time b.row := ⟨fun _ _ => Ne.symm⟩
  exact distinct.forall memA (perm.mem_iff.2 memB) different same

theorem nodup_arrange (order : RowOrder e) (ids : (rows.map Stored.id).Pairwise (· < ·)) :
    ((order.arrange rows).map Stored.id).Nodup := by
  rw [((order.arrange_perm rows).map Stored.id).nodup_iff]
  exact ids.imp Nat.ne_of_lt

end RowOrder

/-! ## Rows that match -/

/-- The entity accepts the criterion, and the database takes it as a condition, alone or beside
another one. -/
def Criterion.Accepted (criterion : Criterion) (e : Entity) (beside : Bool) : Prop :=
  ∃ clause : Clause e, criterion.compile e = .ok clause ∧ clause.check beside = .ok ()

theorem Table.mem_select {table : Table e} {m : Matcher} {clause : Clause e} {stored : Stored e}
    (compiled : m.compile e = .ok clause) :
    stored ∈ table.select clause ↔ stored ∈ table.rows ∧ m.Selects stored.row :=
  List.mem_filter.trans (and_congr_right fun _ => Matcher.holds_iff compiled)

/-- What is read in an order is what is read by ascending id, put in order. -/
theorem Query.rows_ordered (criterion : Criterion) (order : RowOrder e) (database : Database) :
    Query.rows { criterion, order } none database =
      (Query.rows { criterion } none database).map order.arrange := by
  simp only [Query.rows, map_bind]
  rfl

/-- With a limit that the database can count with, what is read is the beginning of what is read
without. -/
theorem Query.rows_limited {query : Query e} {database : Database} {limit : Int}
    (asked : query.rows none database = .ok found) (fits : Kind.fitsWord limit = true) :
    query.rows (some limit) database = .ok (takeLimit limit found) := by
  obtain ⟨clause, keeps, table, compiled, kept, checked, stands, rfl⟩ := Database.rows_iff.1 asked
  have counted : checkWord limit = .ok () := if_pos fits
  exact bind_ok compiled (bind_ok kept (bind_ok checked (bind_ok (Database.table_eq stands)
    (bind_ok counted rfl))))

/-! ## Nothing that matches -/

/-- A call was refused because it found nothing of an entity. -/
def NotFound {α : Type} (result : Except Failure α) (e : Entity) : Prop :=
  ∃ detail matcher, result = .error (.refused ⟨.notFound, e.table, detail, matcher⟩)

theorem not_notFound_ok {α : Type} (value : α) : ¬NotFound (.ok value) e := by
  rintro ⟨_, _, same⟩
  cases same

/-- What was asked for does not matter for a refusal. -/
theorem NotFound.refused {α β : Type} {failure : Failure}
    (missing : NotFound (.error failure : Except Failure α) e) :
    NotFound (.error failure : Except Failure β) e := by
  obtain ⟨detail, matcher, same⟩ := missing
  exact ⟨detail, matcher, congrArg Except.error (Except.error.inj same)⟩

/-- What was refused for one entity was not refused for one of another name. -/
theorem NotFound.table_eq {α : Type} {result : Except Failure α} {other : Entity}
    (one : NotFound result e) (two : NotFound result other) : e.table = other.table := by
  obtain ⟨_, _, refused⟩ := one
  obtain ⟨_, _, refused'⟩ := two
  rw [refused, Except.error.injEq, Failure.refused.injEq, Refusal.mk.injEq] at refused'
  exact refused'.2.1

end FarmLedger
