/-
# FarmLedger.Proofs.Keys.Plan — upserts whose deeds are known beforehand

An upsert that looks for its own key never runs into another row, so the rows that its clause
selects decide all that it does: whether it fails, and which deed it does if not. `planned` is this
deed; what an upsert did was planned (`Upserts.planned`), and what is planned it does
(`Keyed.upserts`).

A `KeyedPuts` is a kind of puts of which two may be apart: no row is found by both. Then the deed of
one does not change the plan of the other (`plan_apart`), nor do they replace the same row
(`deeds_apart`). The plans of many puts that are apart can therefore be made before any of them is
carried out.
-/
import FarmLedger.Proofs.Keys.Puts
import FarmLedger.Proofs.Storage.Deed

namespace FarmLedger

variable {e : Entity} {clause : Clause e} {create : Except Failure (Draft e)}
  {revise : Row e → Revising e} {key : Option NaturalKey} {table : Table e} {deed : Deed e}
  {before : Database}

/-! ## One upsert -/

/-- The deed of an upsert, unless it fails. -/
def planned (clause : Clause e) (create : Except Failure (Draft e)) (revise : Row e → Revising e)
    (table : Table e) : Option (Deed e) :=
  match (table.select clause).head? with
  | none => create.toOption.bind fun draft => draft.entries.row?.map .add
  | some stored =>
    (revise stored.row).result.toOption.bind fun revision =>
      (revision.entries stored.row).row?.map (.replace stored.id)

/-- How a plan comes about. -/
inductive Planned (clause : Clause e) (create : Except Failure (Draft e))
    (revise : Row e → Revising e) (table : Table e) : Deed e → Prop
  | added {draft : Draft e} {row : Row e} (none_ : table.select clause = [])
      (drafted : create = .ok draft) (made : draft.entries.row? = some row) :
      Planned clause create revise table (.add row)
  | replaced {stored : Stored e} {revision : Revision e} {row : Row e}
      (found : (table.select clause).head? = some stored)
      (decided : (revise stored.row).result = .ok revision)
      (made : (revision.entries stored.row).row? = some row) :
      Planned clause create revise table (.replace stored.id row)

theorem planned_eq_some_iff :
    planned clause create revise table = some deed ↔ Planned clause create revise table deed := by
  unfold planned
  cases found : (table.select clause).head? with
  | none =>
    constructor
    · intro same
      obtain ⟨draft, drafted, same⟩ := Option.bind_eq_some_iff.1 same
      obtain ⟨row, made, rfl⟩ := Option.map_eq_some_iff.1 same
      exact .added (List.head?_eq_none_iff.1 found) (toOption_eq_some.1 drafted) made
    · intro planned
      cases planned with
      | added _ drafted made => simp [drafted, made, Except.toOption]
      | replaced found' _ _ => cases found.symm.trans found'
  | some stored =>
    constructor
    · intro same
      obtain ⟨revision, decided, same⟩ := Option.bind_eq_some_iff.1 same
      obtain ⟨row, made, rfl⟩ := Option.map_eq_some_iff.1 same
      exact .replaced found (toOption_eq_some.1 decided) made
    · intro planned
      cases planned with
      | added none_ _ _ =>
        rw [none_] at found
        cases found
      | replaced found' decided made =>
        cases found.symm.trans found'
        simp [decided, made, Except.toOption]

/-- What an upsert does was planned. -/
theorem Upserts.planned {upserted : Upserted} {after : Database}
    (upserts : Upserts clause create revise before upserted after)
    (stands : before e = some table) :
    ∃ deed, Planned clause create revise table deed ∧ after = before.put e (deed.apply table) := by
  cases upserts with
  | created stands' fresh drafted makes =>
    obtain rfl := Option.some.inj (stands.symm.trans stands')
    exact ⟨_, .added fresh drafted (Entries.makes_iff.1 makes).1, rfl⟩
  | revised stands' found decided makes =>
    obtain rfl := Option.some.inj (stands.symm.trans stands')
    exact ⟨_, .replaced found decided (Entries.makes_iff.1 makes).1, rfl⟩

/-- The row that entries make is the one that they fill. -/
theorem Entries.fill_of_row? {entries : Entries e} {row : Row e} (made : entries.row? = some row) :
    entries.fill = .ok row := by
  obtain ⟨_, _, rest⟩ := ok_of_bind (toOption_eq_some.1 made)
  obtain ⟨_, _, rest⟩ := ok_of_bind rest
  obtain ⟨filled, done, rest⟩ := ok_of_bind rest
  obtain ⟨_, _, same⟩ := ok_of_bind rest
  cases same
  exact done

/-- **An upsert that looks for its key does what is planned.** -/
theorem Keyed.upserts (keyed : Keyed clause create revise key) (onePerKey : OnePerKey table.rows)
    (stands : before e = some table) (planned : Planned clause create revise table deed) :
    ∃ upserted, Upserts clause create revise before upserted (before.put e (deed.apply table)) := by
  cases planned with
  | added none_ drafted made =>
    have keys := keyed.created_keys none_ drafted (Entries.fill_of_row? made)
    exact ⟨_, .created stands none_ drafted (Entries.makes_iff.2 ⟨made, keys⟩)⟩
  | replaced found decided made =>
    have storedMem := List.mem_of_mem_filter (List.mem_of_mem_head? found)
    have keys := keyed.revised_keys onePerKey storedMem decided (Entries.fill_of_row? made)
    exact ⟨_, .revised stands found decided (Entries.makes_iff.2 ⟨made, keys⟩)⟩

/-! ## Upserts of one kind -/

/-- Puts of one kind that look for their rows by keys. -/
structure KeyedPuts (e : Entity) (σ : Type) where
  clause : σ → Clause e
  create : σ → Except Failure (Draft e)
  revise : σ → Row e → Revising e
  key : σ → NaturalKey
  /-- What is known of all rows. -/
  Fine : Row e → Prop
  /-- The puts are about different rows. -/
  Apart : σ → σ → Prop
  keyed : ∀ s, Keyed (clause s) (create s) (revise s) (some (key s))
  fine : ∀ {s draft row}, create s = .ok draft → draft.entries.fill = .ok row → Fine row
  keepsFine : ∀ {row old : Row e}, row.KeepsKeys old → Fine old → Fine row
  /-- Nothing but the columns of keys matters to the lookup. -/
  reads : ∀ {s} {row old : Row e}, row.KeepsKeys old → (clause s).holds row = (clause s).holds old
  apart : ∀ {s t row}, Apart s t → Fine row → (clause s).holds row = true →
    (clause t).holds row = false
  symm : ∀ {s t}, Apart s t → Apart t s

namespace KeyedPuts

variable {σ : Type} {puts : KeyedPuts e σ} {s t : σ} {other : Deed e}

/-- A new row is found by the put that made it. -/
theorem finds {draft : Draft e} {row : Row e} (drafted : puts.create s = .ok draft)
    (filled : draft.entries.fill = .ok row) : (puts.clause s).holds row = true :=
  (puts.keyed s).covers row _ rfl ((puts.keyed s).names draft row drafted filled)

def plan (puts : KeyedPuts e σ) (s : σ) (table : Table e) : Option (Deed e) :=
  planned (puts.clause s) (puts.create s) (puts.revise s) table

/-- What is known of the deed of a put: the row that it writes is found by it, and so was the one
that it replaces. -/
inductive Does (puts : KeyedPuts e σ) (s : σ) (table : Table e) : Deed e → Prop
  | added {row : Row e} (fine : puts.Fine row) (own : (puts.clause s).holds row = true) :
      Does puts s table (.add row)
  | replaced {stored : Stored e} {row : Row e} (mem : stored ∈ table.rows)
      (fine : puts.Fine row) (own : (puts.clause s).holds row = true)
      (owned : (puts.clause s).holds stored.row = true) :
      Does puts s table (.replace stored.id row)

theorem does_of_plan (fine : ∀ stored ∈ table.rows, puts.Fine stored.row)
    (plan : puts.plan s table = some deed) : puts.Does s table deed := by
  cases planned_eq_some_iff.1 plan with
  | added none_ drafted made =>
    have filled := Entries.fill_of_row? made
    exact .added (puts.fine drafted filled) (finds drafted filled)
  | replaced found decided made =>
    obtain ⟨mem, owned⟩ := List.mem_filter.1 (List.mem_of_mem_head? found)
    have keeps := Revision.keepsKeys (Entries.fill_of_row? made)
      ((puts.keyed s).keeps _ _ decided)
    exact .replaced mem (puts.keepsFine keeps (fine _ mem)) ((puts.reads keeps).trans owned) owned

/-- The deed of a put leaves the rows fine. -/
theorem Does.fine (does : puts.Does s table deed)
    (fine : ∀ stored ∈ table.rows, puts.Fine stored.row) :
    ∀ stored ∈ (deed.apply table).rows, puts.Fine stored.row := by
  intro stored mem
  cases does with
  | added new _ =>
    rcases Table.mem_append.1 mem with old | rfl
    · exact fine stored old
    · exact new
  | replaced _ new _ _ =>
    rcases Table.mem_replace mem with ⟨_, old⟩ | rfl
    · exact fine stored old
    · exact new

theorem Does.within (does : puts.Does s table deed) : deed.Within table := by
  cases does with
  | added => trivial
  | replaced mem => exact List.mem_map_of_mem mem

/-- **The deed of a put does not change the plan of another one that is apart.** -/
theorem plan_apart (apart : puts.Apart t s)
    (fine : ∀ stored ∈ table.rows, puts.Fine stored.row) (does : puts.Does t table deed) :
    puts.plan s (deed.apply table) = puts.plan s table := by
  have selected : (deed.apply table).select (puts.clause s) = table.select (puts.clause s) := by
    cases does with
    | @added row new own =>
      have unseen : (puts.clause s).holds row = false := puts.apart apart new own
      show ((table.rows ++ [(⟨table.nextId, row⟩ : Stored e)]).filter _) = _
      rw [List.filter_append, List.filter_cons_of_neg (by simp [unseen]), List.filter_nil,
        List.append_nil]
      rfl
    | replaced mem new own owned =>
      exact Table.filter_replace mem (puts.apart apart (fine _ mem) owned)
        (puts.apart apart new own)
  unfold plan planned
  rw [selected]

/-- Two puts that are apart do not replace the same row. -/
theorem deeds_apart (apart : puts.Apart s t)
    (fine : ∀ stored ∈ table.rows, puts.Fine stored.row) (does : puts.Does s table deed)
    (otherDoes : puts.Does t table other) : deed.Apart other := by
  cases does with
  | added =>
    cases otherDoes with
    | added => trivial
    | replaced => trivial
  | @replaced stored row mem new own owned =>
    cases otherDoes with
    | added => trivial
    | @replaced otherStored otherRow otherMem _ _ otherOwned =>
      intro same
      obtain rfl := Table.eq_of_id mem otherMem same
      rw [puts.apart apart (fine stored mem) owned] at otherOwned
      cases otherOwned

end KeyedPuts

end FarmLedger
