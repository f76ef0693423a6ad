/-
# FarmLedger.Proofs.Keys.Clash — work that does not run into a taken key

A key that is taken is found out in one place only, when a row that is otherwise in order is about
to be written. `NoClash` says of a result, and `ClashFree` of a transaction, that this is not what
it comes to. Both go through work step by step; what is left of a write is that its row may stand
beside the others (`clashFree_insert`, `clashFree_update`).
-/
import FarmLedger.Proofs.Storage.Transaction
import FarmLedger.Guard
import FarmLedger.Storage.Upsert
import FarmLedger.Window

namespace FarmLedger

open FarmLedger.Number FarmLedger.Time

variable {α β ε : Type} {e : Entity}

/-- The failure is that a key is taken. -/
def Failure.isDuplicateKey : Failure → Bool
  | .duplicateKey _ _ => true
  | _ => false

/-- The result is not that a key is taken. -/
def NoClash (result : Except Failure α) : Prop :=
  ∀ failure, result = .error failure → failure.isDuplicateKey = false

/-! ## Results -/

namespace NoClash

theorem ok (value : α) : NoClash (.ok value) := by
  intro _ failed
  cases failed

theorem error {failure : Failure} (other : failure.isDuplicateKey = false) :
    NoClash (.error failure : Except Failure α) := by
  intro _ failed
  cases failed
  exact other

theorem bind {first : Except Failure α} {rest : α → Except Failure β} (h : NoClash first)
    (k : ∀ a, first = .ok a → NoClash (rest a)) : NoClash (first >>= rest) := by
  cases first with
  | error failure => exact error (h failure rfl)
  | ok a => exact k a rfl

theorem map {result : Except Failure α} (h : NoClash result) (f : α → β) :
    NoClash (result.map f) := by
  cases result with
  | error failure => exact error (h failure rfl)
  | ok value => exact ok _

theorem mapError {wrap : ε → Failure} (result : Except ε α)
    (other : ∀ fault, (wrap fault).isDuplicateKey = false) : NoClash (result.mapError wrap) := by
  cases result with
  | error fault => exact error (other fault)
  | ok value => exact ok value

theorem forM {f : β → Except Failure Unit} (items : List β) (each : ∀ item, NoClash (f item)) :
    NoClash (items.forM f) := by
  induction items with
  | nil => exact ok ()
  | cons item items ih => exact bind (each item) fun _ _ => ih

theorem mapM {f : β → Except Failure α} (items : List β) (each : ∀ item, NoClash (f item)) :
    NoClash (items.mapM f) := by
  induction items with
  | nil => exact ok []
  | cons item items ih =>
    rw [List.mapM_cons]
    exact bind (each item) fun _ _ => bind ih fun _ _ => ok _

end NoClash

/-! ## Limits and windows -/

theorem noClash_ofSetting (limit : Option Float) : NoClash (Guard.ofSetting limit) := by
  unfold Guard.ofSetting resolveLimit
  refine NoClash.map ?_ _
  split
  · exact .ok _
  · split
    · exact .ok _
    · split
      · exact .error rfl
      · exact .ok _

namespace Window

variable (now : Timestamp) (length : Duration) (w : Window)

theorem noClash_utc : NoClash (utc now) :=
  .mapError _ fun _ => rfl

theorem noClash_finishOf (start : Moment) : NoClash (finishOf start length) :=
  .mapError _ fun _ => rfl

theorem noClash_begin (first : Option Float) : NoClash (begin now length first) :=
  .bind (noClash_utc now) fun _ _ => .bind (noClash_finishOf length _) fun _ _ => .ok _

theorem noClash_refresh : NoClash w.refresh.result := by
  unfold refresh
  split
  · exact .ok _
  · split
    · exact .error rfl
    · exact .ok _

theorem noClash_observeOrRollOver (sample : Float) :
    NoClash (w.observeOrRollOver now sample length).result := by
  have expired : NoClash (w.isExpired now) := (noClash_utc now).map _
  unfold observeOrRollOver
  split
  · refine NoClash.map ?_ _
    unfold rollOver
    cases read : utc now with
    | error failure => exact .error (noClash_utc now failure read)
    | ok start =>
      cases ends : finishOf start length with
      | error failure =>
        simp only [ends]
        exact .error (noClash_finishOf length start failure ends)
      | ok finish =>
        simp only [ends]
        exact .ok _
  · refine NoClash.map ?_ _
    unfold observe
    split
    · next failure late => exact .error (expired failure late)
    · exact .error rfl
    · exact noClash_refresh _

end Window

/-! ## Writes -/

theorem noClash_checkStamps (entries : Entries e) : NoClash entries.checkStamps := by
  refine .forM _ fun column => ?_
  cases entries column with
  | kept value => exact .ok ()
  | given value => exact .mapError _ fun _ => rfl

theorem noClash_checkWidths (entries : Entries e) : NoClash entries.checkWidths := by
  unfold Entries.checkWidths
  split
  · exact .ok ()
  · exact .error rfl

theorem noClash_fill (entries : Entries e) : NoClash entries.fill := by
  unfold Entries.fill
  split
  · exact .ok _
  · exact .error rfl

theorem noClash_checkConditions (row : Row e) : NoClash row.checkConditions := by
  unfold Row.checkConditions
  split
  · exact .error rfl
  · exact .ok ()

theorem noClash_table (database : Database) (e : Entity) : NoClash (database.table e) := by
  unfold Database.table
  split
  · exact .ok _
  · exact .error rfl

/-- A new row that may stand beside the others does not clash. -/
theorem noClash_insert {database : Database} {draft : Draft e}
    (free : ∀ table row, database e = some table → draft.entries.fill = .ok row →
      row.checkKeys (table.rows.map Stored.row) = .ok ()) :
    NoClash (database.insert e draft) := by
  refine .bind (noClash_checkStamps _) fun _ _ => .bind (noClash_table _ _) fun table stands =>
    .bind (noClash_checkWidths _) fun _ _ => .bind ?_ fun _ _ => .ok _
  refine .bind (noClash_fill _) fun row filled => .bind (noClash_checkConditions _) fun _ _ => ?_
  rw [free table row (Database.table_ok stands) filled]
  exact .ok _

/-- A changed row that may stand beside the others does not clash. -/
theorem noClash_update {database : Database} {stored : Stored e} {revision : Revision e}
    (free : ∀ table row, database e = some table →
      (revision.entries stored.row).fill = .ok row →
      row.checkKeys ((table.rows.filter fun other => other.id != stored.id).map Stored.row) =
        .ok ()) :
    NoClash (database.update e stored revision) := by
  refine .bind (noClash_checkStamps _) fun _ _ => .bind (noClash_table _ _) fun table stands =>
    .bind (noClash_checkWidths _) fun _ _ => .bind ?_ fun _ _ => .ok _
  refine .bind (noClash_fill _) fun row filled => .bind (noClash_checkConditions _) fun _ _ => ?_
  rw [free table row (Database.table_ok stands) filled]
  exact .ok _

/-! ## Transactions -/

namespace Transaction

variable {before : Session}

/-- From this session on the transaction does not run into a taken key. -/
def ClashFree (work : Transaction α) (before : Session) : Prop :=
  NoClash (work.outcome before).1

theorem clashFree_pure (value : α) : (pure value : Transaction α).ClashFree before :=
  .ok value

theorem clashFree_bind {first : Transaction α} {rest : α → Transaction β}
    (h : first.ClashFree before)
    (k : ∀ a middle, first.Ran before a middle → (rest a).ClashFree middle) :
    (first >>= rest).ClashFree before := by
  unfold ClashFree at h ⊢
  rw [outcome_bind]
  cases reached : first.outcome before with
  | mk result middle =>
    rw [reached] at h
    cases result with
    | error failure => exact .error (h failure rfl)
    | ok a => exact k a middle reached

theorem clashFree_ofExcept {given : Except Failure α} (h : NoClash given) :
    (ofExcept given).ClashFree before := by
  cases given with
  | error failure => exact .error (h failure rfl)
  | ok value => exact .ok value

theorem clashFree_fetch {given : Except Failure α} {rest : α → Transaction β} (h : NoClash given)
    (k : ∀ a, given = .ok a → (rest a).ClashFree before) :
    (ofExcept given >>= rest).ClashFree before := by
  refine clashFree_bind (clashFree_ofExcept h) fun a middle ran => ?_
  obtain ⟨found, rfl⟩ := ran_ofExcept ran
  exact k a found

theorem clashFree_log (lines : Journal) : (log lines).ClashFree before :=
  .ok ()

theorem clashFree_insert {draft : Draft e} (h : NoClash (before.database.insert e draft)) :
    (insert e draft).ClashFree before := by
  have begins : (insert e draft).outcome before =
      (ofExcept (before.database.insert e draft) >>= fun written => do
        set { before with database := written.1 }
        pure written.2).outcome before := rfl
  unfold ClashFree
  rw [begins]
  exact clashFree_fetch h fun _ _ => .ok _

theorem clashFree_update {stored : Stored e} {revision : Revision e}
    (h : NoClash (before.database.update e stored revision)) :
    (update e stored revision).ClashFree before := by
  have begins : (update e stored revision).outcome before =
      (ofExcept (before.database.update e stored revision) >>= fun written =>
        set { before with database := written }).outcome before := rfl
  unfold ClashFree
  rw [begins]
  exact clashFree_fetch h fun _ _ => .ok _

theorem clashFree_table {rest : Table e → Transaction β}
    (k : ∀ table, before.database e = some table → (rest table).ClashFree before) :
    (Transaction.table e >>= rest).ClashFree before := by
  have begins : (Transaction.table e >>= rest).outcome before =
      (ofExcept (before.database.table e) >>= rest).outcome before := rfl
  unfold ClashFree
  rw [begins]
  exact clashFree_fetch (noClash_table _ _) fun table stands => k table (Database.table_ok stands)

end Transaction

theorem noClash_transact {work : Transaction α} {database : Database}
    (free : work.ClashFree ⟨database, []⟩) : NoClash (transact work database).result := by
  rw [transact_eq]
  unfold Transaction.ClashFree at free
  cases reached : work.outcome ⟨database, []⟩ with
  | mk result after =>
    rw [reached] at free
    cases result with
    | error failure => exact .error (free failure rfl)
    | ok value => exact .ok value

end FarmLedger
