/-
# FarmLedger.Proofs.Storage.OneRow — an upsert touches one row

Whatever the entity, the criterion, the draft and the revision are: an upsert that goes through adds
one row behind the others, or changes the first of the rows that match and leaves all others as they
are (`Upserted.TouchesOne`). Which of the two it does is decided by the rows that are read
beforehand, and whether it goes through by the row that would be written (`Writable`).

An upsert that does not go through takes with it the transaction that it is a part of, with all that
was written before. `upsert_touches_one_row` puts these together. It rests on `ran_upsert` and
`upsert_ran` (FarmLedger.Proofs.Storage.Upsert) and on the ids of a table, which ascend.

Where the row that was written still matches, whoever looks for it with the same clause finds it
first (`Upserts.read_back`).
-/
import FarmLedger.Proofs.Storage.Shown
import FarmLedger.Proofs.Storage.Upsert

namespace FarmLedger

variable {α β : Type} {e : Entity} {criterion : Criterion} {clause : Clause e}
  {create : Except Failure (Draft e)} {revise : Row e → Revising e}

/-! ## What is read beforehand -/

theorem Table.nextId_not_mem (table : Table e) : table.nextId ∉ table.rows.map Stored.id :=
  fun mem => Nat.lt_irrefl _ (table.lt_nextId _ mem)

/-- The first of the rows that match has the lowest id. -/
theorem Table.select_head_le {table : Table e} {first : Stored e}
    (head : (table.select clause).head? = some first) :
    ∀ stored ∈ table.select clause, first.id ≤ stored.id := by
  have ascending := table.ids_select clause
  obtain ⟨rest, found⟩ := List.head?_eq_some_iff.1 head
  rw [found] at ascending ⊢
  intro stored mem
  rcases List.mem_cons.1 mem with rfl | behind
  · exact Nat.le_refl _
  · exact Nat.le_of_lt (List.rel_of_pairwise_cons ascending (List.mem_map_of_mem behind))

/-! ## What is left -/

/-- Of the rows that match, all that an upsert touches is the first; if there is none, it adds a
row. -/
structure Upserted.TouchesOne (upserted : Upserted) (found : List (Stored e))
    (create : Except Failure (Draft e)) (revise : Row e → Revising e) (before after : Database) :
    Prop where
  created_iff : upserted.created = true ↔ found = []
  /-- A new row goes behind the others under an id of its own, and shows the draft. -/
  adds : upserted.created = true → ∃ draft row, create = .ok draft ∧ row.ShowsAll draft ∧
    upserted.id ∉ (before.rows e).map Stored.id ∧
    after.rows e = before.rows e ++ [⟨upserted.id, row⟩]
  /-- Else the match with the lowest id gets another row, and this differs from the old one in no
  column but those that the revision sets. -/
  changes : upserted.created = false → ∃ first ∈ found, first.id = upserted.id ∧
    (∀ stored ∈ found, first.id ≤ stored.id) ∧
    ∃ revision row, (revise first.row).result = .ok revision ∧
      (∀ column, revision column = .keep → row column = first.row column) ∧
      (∀ column given, revision column = .set given →
        (e.kind column).Shows (row column) given) ∧
      after.rows e = (before.rows e).map fun stored =>
        if stored.id = upserted.id then ⟨upserted.id, row⟩ else stored
  elsewhere : ∀ other, other ≠ e → after other = before other

theorem Upserts.touchesOne {before after : Database} {upserted : Upserted} {table : Table e}
    (upserts : Upserts clause create revise before upserted after)
    (stands : before e = some table) :
    upserted.TouchesOne (table.select clause) create revise before after := by
  have elsewhere (other : Entity) (different : other ≠ e) : after other = before other :=
    upserts.other_table different.symm
  cases upserts with
  | @created table' draft row stands' fresh drafted makes =>
    obtain rfl := Option.some.inj (stands.symm.trans stands')
    have new : table.nextId ∉ (before.rows e).map Stored.id := by
      rw [Database.rows_of_table stands]
      exact table.nextId_not_mem
    refine ⟨⟨fun _ => fresh, fun _ => rfl⟩, fun _ => ?_, nofun, elsewhere⟩
    refine ⟨draft, row, drafted, Draft.shows makes.stamps makes.filled, new, ?_⟩
    rw [Database.rows_put, Database.rows_of_table stands]
    rfl
  | @revised table' first revision row stands' found decided makes =>
    obtain rfl := Option.some.inj (stands.symm.trans stands')
    have mem : first ∈ table.select clause := List.mem_of_mem_head? found
    have some_ : table.select clause ≠ [] := List.ne_nil_of_mem mem
    refine ⟨⟨nofun, fun none_ => absurd none_ some_⟩, nofun, fun _ => ?_, elsewhere⟩
    refine ⟨first, mem, rfl, Table.select_head_le found, revision, row, decided,
      Revision.keeps makes.filled, fun column given set => ?_, ?_⟩
    · exact Revision.shows makes.stamps makes.filled column set
    · rw [Database.rows_put, Database.rows_of_table stands]
      rfl

/-! ## When it goes through -/

/-- There is a draft or a revision, and the row that it makes may stand beside the others: its
timestamps and numbers can be stored, no value is missing, and no condition and no key is broken. -/
inductive Writable (found : List (Stored e)) (create : Except Failure (Draft e))
    (revise : Row e → Revising e) (rows : List (Stored e)) : Prop
  | new {draft : Draft e} {row : Row e} (none_ : found = []) (drafted : create = .ok draft)
      (makes : draft.entries.Makes (rows.map Stored.row) row)
  | revised {first : Stored e} {revision : Revision e} {row : Row e}
      (head : found.head? = some first) (decided : (revise first.row).result = .ok revision)
      (makes : (revision.entries first.row).Makes
        ((rows.filter fun other => other.id != first.id).map Stored.row) row)

namespace Transaction

/-- An upsert that goes through has read the rows that match. -/
theorem ran_upsert_query {before after : Session} {upserted : Upserted}
    (ran : (upsert e criterion create revise).Ran before upserted after) :
    ∃ clause table, criterion.compile e = .ok clause ∧ clause.check false = .ok () ∧
      before.database e = some table ∧
      Upserts clause create revise before.database upserted after.database := by
  obtain ⟨clause, compiled, upserts⟩ := ran_upsert ran
  obtain ⟨clause', compiled', ran⟩ := ran_fetch ran
  obtain ⟨_, checked, ran⟩ := ran_fetch ran
  obtain ⟨table, stands, _⟩ := ran_table ran
  obtain rfl := Except.ok.inj (compiled.symm.trans compiled')
  exact ⟨clause, table, compiled, checked, stands, upserts⟩

theorem upsert_ran_iff {before : Session} {found : List (Stored e)}
    (asked : Query.rows ({ criterion } : Query e) none before.database = .ok found) :
    (∃ upserted after, (upsert e criterion create revise).Ran before upserted after) ↔
      Writable found create revise (before.database.rows e) := by
  obtain ⟨clause, table, compiled, checked, stands, rfl⟩ := Database.read_iff.1 asked
  rw [Database.rows_of_table stands]
  constructor
  · rintro ⟨upserted, after, ran⟩
    obtain ⟨clause', compiled', upserts⟩ := ran_upsert ran
    obtain rfl := Except.ok.inj (compiled.symm.trans compiled')
    generalize after.database = next at upserts
    cases upserts with
    | created stands' fresh drafted makes =>
      obtain rfl := Option.some.inj (stands.symm.trans stands')
      exact .new fresh drafted makes
    | revised stands' head decided makes =>
      obtain rfl := Option.some.inj (stands.symm.trans stands')
      exact .revised head decided makes
  · intro writable
    cases writable with
    | new fresh drafted makes =>
      obtain ⟨after, ran, _⟩ :=
        upsert_ran compiled checked (.created stands fresh drafted makes)
      exact ⟨_, after, ran⟩
    | revised head decided makes =>
      obtain ⟨after, ran, _⟩ := upsert_ran compiled checked (.revised stands head decided makes)
      exact ⟨_, after, ran⟩

/-- A step that does not go through ends the transaction that it is a part of. -/
theorem transact_undone {γ : Type} {first : Transaction α} {step : Transaction β}
    {rest : β → Transaction γ} {database : Database} {middle : Session} {a : α}
    (reached : first.Ran ⟨database, []⟩ a middle)
    (refused : ¬ ∃ value after, step.Ran middle value after) :
    ∃ failure,
      (transact (first >>= fun _ => step >>= rest) database).result = .error failure ∧
      (transact (first >>= fun _ => step >>= rest) database).database = database := by
  rcases transact_cases (first >>= fun _ => step >>= rest) database with
    ⟨_, _, ran, _⟩ | undone
  · obtain ⟨a', middle', first', ran⟩ := ran_bind ran
    cases reached.symm.trans first'
    obtain ⟨value, after, stepped, _⟩ := ran_bind ran
    exact absurd ⟨value, after, stepped⟩ refused
  · exact undone

end Transaction

/-! ## Reading back -/

/-- The row that an upsert wrote, and what it did to the rows that there were. -/
inductive Upserted.Wrote (before : List (Stored e)) (stored : Stored e) :
    Upserted → List (Stored e) → Prop
  | added (new : stored.id ∉ before.map Stored.id) :
      Wrote before stored ⟨stored.id, true⟩ (before ++ [stored])
  | replaced {old : Stored e} (mem : old ∈ before) (same : old.id = stored.id) :
      Wrote before stored ⟨stored.id, false⟩
        (before.map fun other => if other.id = stored.id then stored else other)

namespace Table

variable {table : Table e}

/-- A row that was looked for in vain is the only one that is found once it is there. -/
theorem select_append {row : Row e} (none_ : table.select clause = [])
    (holds : clause.holds row = true) :
    (table.append row).select clause = [⟨table.nextId, row⟩] := by
  unfold select append at *
  rw [List.filter_append, none_, List.nil_append]
  exact List.filter_cons_of_pos holds

/-- A row that takes the place of a match is found in its place, if it is a match. -/
theorem select_replace_eq {old : Stored e} {row : Row e} (found : old ∈ table.select clause)
    (holds : clause.holds row = true) :
    (table.replace old.id row).select clause =
      (table.select clause).map fun stored =>
        if stored.id = old.id then ⟨old.id, row⟩ else stored := by
  obtain ⟨mem, selected⟩ := List.mem_filter.1 found
  let replaced (stored : Stored e) : Stored e :=
    if stored.id = old.id then ⟨old.id, row⟩ else stored
  -- The clause selects the new row where it selected the old one.
  have sees : ∀ stored ∈ table.rows,
      ((fun stored => clause.holds stored.row) ∘ replaced) stored = clause.holds stored.row := by
    intro stored storedMem
    show clause.holds (replaced stored).row = _
    by_cases same : stored.id = old.id
    · rw [eq_of_id storedMem mem same, show replaced old = ⟨old.id, row⟩ from if_pos rfl,
        holds, selected]
    · rw [show replaced stored = stored from if_neg same]
  show (table.rows.map replaced).filter _ = _
  rw [List.filter_map, List.filter_congr sees]
  rfl

/-- A row that takes the place of the first match is the first match, if it is one. -/
theorem select_replace {first : Stored e} {row : Row e}
    (head : (table.select clause).head? = some first) (holds : clause.holds row = true) :
    ∃ rest, (table.replace first.id row).select clause = ⟨first.id, row⟩ :: rest := by
  have after := select_replace_eq (List.mem_of_mem_head? head) holds
  obtain ⟨rest, found⟩ := List.head?_eq_some_iff.1 head
  rw [found, List.map_cons, if_pos rfl] at after
  exact ⟨_, after⟩

/-- A row that takes the place of the only match is the only match, if it is one. -/
theorem select_replace_alone {stored : Stored e} {row : Row e}
    (alone : table.select clause = [stored]) (holds : clause.holds row = true) :
    (table.replace stored.id row).select clause = [⟨stored.id, row⟩] := by
  have found : stored ∈ table.select clause := by
    rw [alone]
    exact List.mem_singleton_self stored
  rw [select_replace_eq found holds, alone, List.map_singleton, if_pos rfl]

end Table

/-- **What an upsert wrote is the first row that its clause finds then**, if new rows satisfy the
clause and revised ones still do. -/
theorem Upserts.read_back {before after : Database} {upserted : Upserted} {P : Row e → Prop}
    (upserts : Upserts clause create revise before upserted after)
    (new : ∀ draft row, create = .ok draft → draft.entries.fill = .ok row →
      clause.holds row = true ∧ P row)
    (stays : ∀ old revision row, clause.holds old = true → (revise old).result = .ok revision →
      (revision.entries old).fill = .ok row → clause.holds row = true ∧ P row) :
    ∃ table first rest, after e = some table ∧ table.select clause = first :: rest ∧
      upserted.Wrote (before.rows e) first table.rows ∧ P first.row := by
  cases upserts with
  | @created table draft row stands none_ drafted makes =>
    obtain ⟨holds, established⟩ := new draft row drafted makes.filled
    refine ⟨table.append row, _, [], Database.put_same _ _, Table.select_append none_ holds, ?_,
      established⟩
    rw [Database.rows_of_table stands]
    exact .added table.nextId_not_mem
  | @revised table old revision row stands head decided makes =>
    obtain ⟨mem, selected⟩ := List.mem_filter.1 (List.mem_of_mem_head? head)
    obtain ⟨holds, established⟩ := stays old.row revision row selected decided makes.filled
    obtain ⟨rest, found⟩ := Table.select_replace head holds
    refine ⟨table.replace old.id row, _, rest, Database.put_same _ _, found, ?_, established⟩
    rw [Database.rows_of_table stands]
    exact .replaced mem rfl

/-! ## The result -/

/-- **An upsert touches one row, or nothing.** This holds for every criterion, draft and revision,
and at every point of a transaction. -/
theorem upsert_touches_one_row (e : Entity) (criterion : Criterion)
    (create : Except Failure (Draft e)) (revise : Row e → Revising e) (before : Session) :
    (∀ upserted after, (upsert e criterion create revise).Ran before upserted after →
      ∃ found, Query.rows ({ criterion } : Query e) none before.database = .ok found ∧
        upserted.TouchesOne found create revise before.database after.database) ∧
    (∀ found, Query.rows ({ criterion } : Query e) none before.database = .ok found →
      ((∃ upserted after, (upsert e criterion create revise).Ran before upserted after) ↔
        Writable found create revise (before.database.rows e))) ∧
    -- What does not go through leaves nothing, and neither does what came before it.
    ∀ {α β : Type} (work : Transaction α) (rest : Upserted → Transaction β) (database : Database)
      (a : α), work.Ran ⟨database, []⟩ a before →
      (¬ ∃ upserted after, (upsert e criterion create revise).Ran before upserted after) →
      ∃ failure,
        (transact (work >>= fun _ => upsert e criterion create revise >>= rest) database).result =
          .error failure ∧
        (transact (work >>= fun _ => upsert e criterion create revise >>= rest) database).database =
          database := by
  refine ⟨fun upserted after ran => ?_, fun found asked => Transaction.upsert_ran_iff asked,
    fun work rest database a reached refused => Transaction.transact_undone reached refused⟩
  obtain ⟨clause, table, compiled, checked, stands, upserts⟩ := Transaction.ran_upsert_query ran
  exact ⟨_, Database.read_iff.2 ⟨clause, table, compiled, checked, stands, rfl⟩,
    upserts.touchesOne stands⟩

def accountOf (account authority : String) : Draft .v1ObligationAccount
  | .account => some account
  | .authority => some authority

/-- Two of three accounts have the same authority. -/
def sharedAuthority : Database :=
  (transact (Transaction.insertAll .v1ObligationAccount
    [accountOf "first" "shared", accountOf "other" "own", accountOf "second" "shared"])
    Database.empty.createTables).database

/-- A new authority, and perhaps another account. -/
def handOver (account : Change .text) : Row .v1ObligationAccount → Revising .v1ObligationAccount :=
  fun _ => .quiet fun
    | .account => account
    | .authority => .set (some "new")

/-- A new account, and then the new authority in the same transaction. -/
def addAndHandOver (account : Change .text) : Transaction Upserted :=
  Transaction.insert .v1ObligationAccount (accountOf "third" "own") >>= fun _ =>
    upsert .v1ObligationAccount (.matcher (.byField "authority" [some "shared"]))
      (.ok (accountOf "third" "shared")) (handOver account) >>= pure

/-- The account with the lower id gets a new authority. It cannot get the name of another account,
and the account that was written before is then undone. -/
theorem sharedAuthority_touches_one :
    (∃ after found, found.map Stored.id = [1, 3] ∧
      (⟨1, false⟩ : Upserted).TouchesOne found (.ok (accountOf "third" "shared")) (handOver .keep)
        sharedAuthority after) ∧
    ∃ failure,
      (transact (addAndHandOver (.set (some "other"))) sharedAuthority).result = .error failure ∧
      (transact (addAndHandOver (.set (some "other"))) sharedAuthority).database =
        sharedAuthority := by
  let shared : Criterion := .matcher (.byField "authority" [some "shared"])
  let draft := accountOf "third" "shared"
  constructor
  · have done : (transact (upsert .v1ObligationAccount shared (.ok draft) (handOver .keep))
        sharedAuthority).result = .ok ⟨1, false⟩ := rfl
    obtain ⟨after, ran, _⟩ := transact_ok done
    obtain ⟨found, asked, touches⟩ := (upsert_touches_one_row .v1ObligationAccount shared
      (.ok draft) (handOver .keep) ⟨sharedAuthority, []⟩).1 _ after ran
    have ids : (Query.rows ({ criterion := shared } : Query .v1ObligationAccount) none
        sharedAuthority).map (List.map Stored.id) = .ok [1, 3] := rfl
    rw [asked] at ids
    exact ⟨after.database, found, Except.ok.inj ids, touches⟩
  · let renamed := handOver (.set (some "other"))
    let first := Transaction.insert .v1ObligationAccount (accountOf "third" "own")
    let before : Session := (first.outcome ⟨sharedAuthority, []⟩).2
    have reached : first.Ran ⟨sharedAuthority, []⟩ 4 before := rfl
    have clashes : ((upsert .v1ObligationAccount shared (.ok draft) renamed).outcome before).1 =
        .error (.duplicateKey "v1_obligation_account" ["account"]) := rfl
    refine (upsert_touches_one_row .v1ObligationAccount shared (.ok draft) renamed before).2.2
      first pure sharedAuthority 4 reached ?_
    rintro ⟨upserted, after, ran⟩
    cases (congrArg Prod.fst ran).symm.trans clashes

end FarmLedger
