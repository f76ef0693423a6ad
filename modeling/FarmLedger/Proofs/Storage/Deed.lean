/-
# FarmLedger.Proofs.Storage.Deed — writes that are known beforehand

A write adds a row to a table or puts a row in the place of another one. Written down as a `Deed`
it can be compared with other deeds before any of them is done. Deeds that replace rows under
different ids do not see each other (`Deed.Apart`), and rows are only ever added behind those that
were there. So the order of deeds shows nowhere but in the order, and hence in the ids, of the rows
that they add: `foldl_perm` says so with `AlikeUpToNew`.
-/
import FarmLedger.Proofs.Storage.Transaction
import Mathlib.Data.List.Pairwise

namespace FarmLedger

variable {e : Entity}

/-! ## Rows that entries make -/

/-- The row that the entries make, as far as other rows do not matter. -/
def Entries.row? (entries : Entries e) : Option (Row e) :=
  let made : Except Failure (Row e) := do
    entries.checkStamps
    entries.checkWidths
    let row ← entries.fill
    row.checkConditions
    pure row
  made.toOption

/-- What a written row has passed: its own entries, and the keys of the others. -/
theorem Entries.makes_iff {entries : Entries e} {others : List (Row e)} {row : Row e} :
    entries.Makes others row ↔ entries.row? = some row ∧ row.checkKeys others = .ok () := by
  unfold Entries.row?
  rw [toOption_eq_some]
  constructor
  · intro makes
    exact ⟨bind_ok makes.stamps (bind_ok makes.widths (bind_ok makes.filled
      (bind_ok makes.conditions rfl))), makes.keys⟩
  · rintro ⟨made, keys⟩
    obtain ⟨_, stamps, made⟩ := ok_of_bind made
    obtain ⟨_, widths, made⟩ := ok_of_bind made
    obtain ⟨_, filled, made⟩ := ok_of_bind made
    obtain ⟨_, conditions, made⟩ := ok_of_bind made
    cases made
    exact ⟨stamps, widths, filled, conditions, keys⟩

/-! ## Deeds -/

/-- What a write does to a table. -/
inductive Deed (e : Entity)
  | add (row : Row e)
  | replace (id : Nat) (row : Row e)

namespace Deed

def apply (table : Table e) : Deed e → Table e
  | add row => table.append row
  | replace id row => table.replace id row

/-- The table after the deed, without the row that it adds. -/
def revise (table : Table e) : Deed e → Table e
  | add _ => table
  | replace id row => table.replace id row

def added : Deed e → Option (Row e)
  | add row => some row
  | replace _ _ => none

/-- The deed replaces a row that is there, if it replaces one. -/
def Within (table : Table e) : Deed e → Prop
  | add _ => True
  | replace id _ => id ∈ table.rows.map Stored.id

/-- The deeds do not replace the same row. -/
def Apart : Deed e → Deed e → Prop
  | replace id _, replace other _ => id ≠ other
  | _, _ => True

variable {table base : Table e} {deed other : Deed e} {deeds others : List (Deed e)}

theorem ids_revise (table : Table e) (deed : Deed e) :
    (revise table deed).rows.map Stored.id = table.rows.map Stored.id := by
  cases deed with
  | add row => rfl
  | replace id row => exact table.ids_replace id row

theorem ids_foldl_revise (deeds : List (Deed e)) (table : Table e) :
    (deeds.foldl revise table).rows.map Stored.id = table.rows.map Stored.id := by
  induction deeds generalizing table with
  | nil => rfl
  | cons deed deeds ih => exact (ih _).trans (ids_revise table deed)

theorem Within.revise (within : other.Within table) (deed : Deed e) :
    other.Within (revise table deed) := by
  cases other with
  | add row => trivial
  | replace id row =>
    show id ∈ (Deed.revise table deed).rows.map Stored.id
    rw [ids_revise]
    exact within

/-- Rows that were added behind the others are not replaced. -/
theorem replace_behind {new : List (Stored e)} {id : Nat} {row : Row e}
    (split : table.rows = base.rows ++ new) (within : id ∈ base.rows.map Stored.id) :
    (table.replace id row).rows = (base.replace id row).rows ++ new := by
  have ascending := table.ascending
  rw [split, List.map_append, List.pairwise_append] at ascending
  have behind : (new.map fun stored => if stored.id = id then ⟨id, row⟩ else stored) = new := by
    refine (List.map_congr_left fun stored mem => ?_).trans (List.map_id new)
    have less := ascending.2.2 id within stored.id (List.mem_map_of_mem mem)
    exact if_neg (Nat.ne_of_gt less)
  show (table.rows.map _) = (base.rows.map _) ++ new
  rw [split, List.map_append, behind]

/-- **Deeds revise what was there and add behind it.** -/
theorem foldl_apply_rows {new : List (Stored e)} (split : table.rows = base.rows ++ new)
    (within : ∀ deed ∈ deeds, deed.Within base) :
    ∃ fresh, (deeds.foldl apply table).rows = (deeds.foldl revise base).rows ++ fresh ∧
      fresh.map Stored.row = new.map Stored.row ++ deeds.filterMap added := by
  induction deeds generalizing table base new with
  | nil => exact ⟨new, split, (List.append_nil _).symm⟩
  | cons deed deeds ih =>
    have later : ∀ other ∈ deeds, other.Within (revise base deed) := fun other mem =>
      (within other (List.mem_cons_of_mem _ mem)).revise deed
    cases deed with
    | add row =>
      have next : (table.append row).rows = base.rows ++ (new ++ [⟨table.nextId, row⟩]) := by
        show table.rows ++ [⟨table.nextId, row⟩] = _
        rw [split, List.append_assoc]
      obtain ⟨fresh, rows, made⟩ := ih next later
      refine ⟨fresh, rows, ?_⟩
      rw [made, List.map_append, List.append_assoc]
      rfl
    | replace id row => exact ih (replace_behind split (within _ List.mem_cons_self)) later

/-! ### Changing places -/

theorem eq_of_rows {a b : Table e} (same : a.rows = b.rows) : a = b := by
  cases a
  cases b
  cases same
  rfl

/-- The deeds may change places. -/
def Commutes (deed other : Deed e) : Prop :=
  ∀ table : Table e, revise (revise table deed) other = revise (revise table other) deed

instance : Std.Symm (Commutes (e := e)) where
  symm _ _ commutes table := (commutes table).symm

theorem Apart.commutes (apart : deed.Apart other) : deed.Commutes other := by
  intro table
  cases deed with
  | add row => rfl
  | replace id row =>
    cases other with
    | add row => rfl
    | replace otherId otherRow =>
      have different : id ≠ otherId := apart
      refine eq_of_rows ?_
      show ((table.rows.map _).map _) = ((table.rows.map _).map _)
      rw [List.map_map, List.map_map]
      refine List.map_congr_left fun stored _ => ?_
      simp only [Function.comp_apply]
      by_cases first : stored.id = id
      · simp [first, different]
      · by_cases second : stored.id = otherId
        · simp [second, different.symm]
        · simp [first, second]

theorem foldl_revise_perm (perm : deeds.Perm others) (apart : deeds.Pairwise Apart)
    (table : Table e) : deeds.foldl revise table = others.foldl revise table := by
  have commutes : ∀ a ∈ deeds, ∀ b ∈ deeds, a.Commutes b := fun a memA b memB =>
    List.Pairwise.forall_of_forall (fun _ _ _ => rfl) (apart.imp Apart.commutes) memA memB
  exact perm.foldl_eq' (fun a memA b memB => commutes a memA b memB) table

end Deed

/-- The rows are the same up to the order and the ids of those that are new since then. -/
def AlikeUpToNew (before rows others : List (Stored e)) : Prop :=
  ∃ revised new otherNew, rows = revised ++ new ∧ others = revised ++ otherNew ∧
    revised.map Stored.id = before.map Stored.id ∧
    (new.map Stored.row).Perm (otherNew.map Stored.row)

theorem AlikeUpToNew.refl (rows : List (Stored e)) : AlikeUpToNew rows rows rows :=
  ⟨rows, [], [], (List.append_nil _).symm, (List.append_nil _).symm, rfl, .nil⟩

/-- **The order of deeds that are apart** shows only in the order of the rows that they add. -/
theorem Deed.foldl_perm {deeds others : List (Deed e)} {table : Table e}
    (perm : deeds.Perm others) (apart : deeds.Pairwise Apart)
    (within : ∀ deed ∈ deeds, deed.Within table) :
    AlikeUpToNew table.rows (deeds.foldl apply table).rows (others.foldl apply table).rows := by
  have split : table.rows = table.rows ++ [] := (List.append_nil _).symm
  obtain ⟨new, rows, made⟩ := foldl_apply_rows split within
  obtain ⟨otherNew, otherRows, otherMade⟩ :=
    foldl_apply_rows split fun deed mem => within deed (perm.mem_iff.2 mem)
  rw [← foldl_revise_perm perm apart] at otherRows
  refine ⟨_, new, otherNew, rows, otherRows, ids_foldl_revise deeds table, ?_⟩
  rw [made, otherMade]
  exact perm.filterMap added

end FarmLedger
