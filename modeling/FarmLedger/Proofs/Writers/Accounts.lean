/-
# FarmLedger.Proofs.Writers.Accounts — what accounts keep of their puts

An account is looked up by its key. `Account.watch` watches the row with a key: the puts that go to
it are the puts of the account with that key, its owners are decided by the first of them
(`Account.createOnly`), and its state by the last (`Account.refreshed`). The lists are what is
promised of an account; that they agree with what a put refreshes is `isFixed_of_createOnly` and
`isFixed_of_refreshed`.

All rows that a put of an account writes, or finds to write in their place, have the key of the put
(`AccountPut.key_of_upserted`). So a put with another key spares the row, and one with its key
opens or renews it.
-/
import FarmLedger.Proofs.Keys.Puts
import FarmLedger.Proofs.Ledger.Undone
import FarmLedger.Proofs.Storage.Shown
import FarmLedger.Proofs.Writers.Watch

namespace FarmLedger

open FarmLedger.Time

/-! ## Puts of accounts -/

/-- A put of an account, its row prepared. -/
structure AccountPut where
  account : Account
  draft : Draft account.entity

namespace AccountPut

def key (put : AccountPut) : Option String :=
  put.account.key put.draft

/-- Records the state of an account, and tells which row it went to. -/
def route (put : AccountPut) (database : Database) : Outcome Upserted :=
  transact
    (upsert put.account.entity (.matcher (.byField put.account.keyField [put.key])) (.ok put.draft)
      fun _ => .quiet (put.account.refresh put.draft))
    database

end AccountPut

/-- The put of an account that a call makes, if its row can be prepared. -/
def Call.accountPut? : Call → Option AccountPut
  | putAccount account draft => some ⟨account, draft⟩
  | putVault state => state.draft.toOption.map fun draft => ⟨.vault, draft⟩
  | putSplit split => split.draft.toOption.map fun draft => ⟨.lendingOptimizerDistribution, draft⟩
  | putUserFarm farm => farm.draft.toOption.map fun draft => ⟨.v1UserFarm, draft⟩
  | _ => none

namespace Account

/-- The columns beside the key that only the first put decides. -/
def createOnly : (account : Account) → List account.entity.Column
  | depositTracking => [.ownerAddress, .vaultAccountAddress]
  | v1UserFarm => [.authority]
  | _ => []

/-- The columns that every put decides. -/
def refreshed : (account : Account) → List account.entity.Column
  | depositTracking =>
    [.accountData, .scrapedAt, .currentBalance, .currentShares, .balanceUsdValue]
  | v1UserFarm => [.obligations, .obligationIndexes, .leveragedFarm]
  | account => account.entity.schema.columns.filter fun column => column ≠ account.keyColumn

def watch (account : Account) (key : String) : Watch account.entity AccountPut where
  isIt stored := stored.row.text? account.keyColumn == some key
  puts _ request database :=
    match request.call.accountPut? with
    | some put =>
      if put.account = account ∧ put.key = some key then
        match (put.route database).result with
        | .ok upserted => [⟨upserted.id, put⟩]
        | .error _ => []
      else []
    | none => []
  first row put := ∃ draft, put = ⟨account, draft⟩ ∧
    ∀ column ∈ account.createOnly, (account.entity.kind column).Shows (row column) (draft column)
  last row put := ∃ draft, put = ⟨account, draft⟩ ∧
    ∀ column ∈ account.refreshed, (account.entity.kind column).Shows (row column) (draft column)

theorem isFixed_of_createOnly (account : Account) :
    ∀ column ∈ account.createOnly, account.isFixed column = true := by
  cases account <;> decide

theorem isFixed_of_refreshed (account : Account) :
    ∀ column ∈ account.refreshed, account.isFixed column = false := by
  cases account <;> decide

theorem isFixed_keyColumn (account : Account) : account.isFixed account.keyColumn = true := by
  cases account <;> rfl

theorem eq_of_entity {account other : Account} (same : account.entity = other.entity) :
    account = other := by
  cases account <;> cases other <;> first | rfl | cases same

theorem key_eq_text? (account : Account) (draft : Draft account.entity) :
    account.key draft = draft.text? account.keyColumn := by
  cases account <;> rfl

theorem naturalKey?_eq (account : Account) (row : Row account.entity) :
    row.naturalKey? = (row.text? account.keyColumn).map .name := by
  cases account <;> rfl

theorem keyClause_holds {account : Account} {key : Option String} {row : Row account.entity} :
    (account.keyClause key).holds row = true ↔
      key.isSome = true ∧ row.text? account.keyColumn = key := by
  simp [keyClause, Clause.holds, Row.has]

end Account

variable {account : Account} {settings : Settings} {now : Timestamp} {call : Call}
  {request : Request} {before after database : Database} {draft : Draft account.entity}
  {key : String} {upserted : Upserted} {stored : Stored account.entity}

/-! ## Calls -/

theorem Outcome.map_map {α β γ : Type} (outcome : Outcome α) (f : α → β) (g : β → γ) :
    (outcome.map f).map g = outcome.map fun a => g (f a) := by
  unfold Outcome.map
  cases outcome.result <;> rfl

theorem AccountPut.transact_put (put : AccountPut) :
    transact (putAccount put.account put.draft) database =
      (put.route database).map fun _ => () := by
  unfold putAccount AccountPut.route
  exact transact_discard _ database

theorem AccountPut.attempt_put {put : AccountPut} {given : Except Failure (Draft account.entity)}
    (ready : (given.toOption.map fun draft => (⟨account, draft⟩ : AccountPut)) = some put) :
    attempt (putPrepared account given) database = (put.route database).map fun _ => () := by
  cases given with
  | error _ => cases ready
  | ok draft =>
    cases ready
    exact AccountPut.transact_put ⟨account, draft⟩

/-- A call that puts an account does what the put does. -/
theorem Call.perform_accountPut {put : AccountPut} (puts : call.accountPut? = some put) :
    call.perform settings now database = (put.route database).map fun _ => .done := by
  cases call with
  | putAccount account draft =>
    cases puts
    show (transact (FarmLedger.putAccount account draft) database).map _ = _
    rw [AccountPut.transact_put ⟨account, draft⟩, Outcome.map_map]
  | putVault state =>
    show (attempt (putPrepared .vault state.draft) database).map _ = _
    rw [AccountPut.attempt_put puts, Outcome.map_map]
  | putSplit split =>
    show (attempt (putPrepared .lendingOptimizerDistribution split.draft) database).map _ = _
    rw [AccountPut.attempt_put puts, Outcome.map_map]
  | putUserFarm farm =>
    show (attempt (putPrepared .v1UserFarm farm.draft) database).map _ = _
    rw [AccountPut.attempt_put puts, Outcome.map_map]
  | _ => cases puts

/-- What cannot be prepared changes nothing. -/
theorem attempt_unprepared {given : Except Failure (Draft account.entity)}
    (unput : ∀ put, (given.toOption.map fun draft => (⟨account, draft⟩ : AccountPut)) = some put →
      put.account ≠ account) :
    (attempt (putPrepared account given) database).database = database := by
  cases given with
  | error _ => rfl
  | ok draft => exact absurd rfl (unput ⟨account, draft⟩ rfl)

/-- A call that puts no account of the kind, and deletes none, leaves the accounts. -/
theorem Call.accounts_kept (unput : ∀ put, call.accountPut? = some put → put.account ≠ account)
    (undeleted : ∀ criterion, call ≠ .delete account.entity criterion) :
    (call.perform settings now database).database account.entity = database account.entity := by
  by_cases writes : account.entity ∈ call.writes
  · cases call with
    | putAccount other draft =>
      exact absurd (Account.eq_of_entity (List.mem_singleton.1 writes)).symm (unput _ rfl)
    | putVault state =>
      obtain rfl : account = .vault := Account.eq_of_entity (List.mem_singleton.1 writes)
      show (attempt (putPrepared .vault state.draft) database).database _ = _
      rw [attempt_unprepared unput]
    | putSplit split =>
      obtain rfl : account = .lendingOptimizerDistribution :=
        Account.eq_of_entity (List.mem_singleton.1 writes)
      show (attempt (putPrepared .lendingOptimizerDistribution split.draft) database).database _ = _
      rw [attempt_unprepared unput]
    | putUserFarm farm =>
      obtain rfl : account = .v1UserFarm := Account.eq_of_entity (List.mem_singleton.1 writes)
      show (attempt (putPrepared .v1UserFarm farm.draft) database).database _ = _
      rw [attempt_unprepared unput]
    | delete other criterion =>
      obtain rfl := List.mem_singleton.1 writes
      exact absurd rfl (undeleted criterion)
    | putSample log draft =>
      cases account <;> cases log <;> simp [Call.writes] at writes
    | _ => cases account <;> simp [Call.writes] at writes
  · exact Call.perform_other writes

/-! ## One put -/

namespace AccountPut

theorem route_ok (done : (AccountPut.route ⟨account, draft⟩ database).result = .ok upserted) :
    Upserts (account.keyClause (account.key draft)) (.ok draft)
      (fun _ => .quiet (account.refresh draft)) database upserted
      (AccountPut.route ⟨account, draft⟩ database).database := by
  obtain ⟨after, ran, reached⟩ := transact_ok done
  obtain ⟨clause, compiled, upserts⟩ := Transaction.ran_upsert ran
  obtain rfl : account.keyClause (account.key draft) = clause :=
    Except.ok.inj ((account.compile_key _).symm.trans compiled)
  unfold AccountPut.route
  rw [reached]
  exact upserts

/-- A row that is written, or found to be written, has the key of the put. -/
theorem key_of_upserted
    (upserts : Upserts (account.keyClause (account.key draft)) (.ok draft)
      (fun _ => .quiet (account.refresh draft)) before upserted after)
    (mem : stored ∈ before.rows account.entity ++ after.rows account.entity)
    (id : stored.id = upserted.id) :
    stored.row.text? account.keyColumn = account.key draft := by
  cases upserts with
  | @created table given row stands _ drafted makes =>
    rw [Database.rows_of_table stands, Database.rows_put] at mem
    cases drafted
    have new : stored ∈ table.rows → False := fun old =>
      Nat.ne_of_lt (table.lt_nextId stored.id (List.mem_map_of_mem old)) id
    rcases List.mem_append.1 mem with old | mem
    · exact (new old).elim
    · rcases Table.mem_append.1 mem with old | rfl
      · exact (new old).elim
      · rw [account.key_eq_text?]
        exact (Draft.shows makes.stamps makes.filled account.keyColumn).text?
  | @revised table first revision row stands found decided makes =>
    rw [Database.rows_of_table stands, Database.rows_put] at mem
    cases decided
    have selected := List.mem_filter.1 (List.mem_of_mem_head? found)
    have own := (Account.keyClause_holds.1 selected.2).2
    have kept : row.text? account.keyColumn = first.row.text? account.keyColumn := by
      unfold Row.text?
      rw [Revision.keeps makes.filled account.keyColumn (if_pos account.isFixed_keyColumn)]
    rcases List.mem_append.1 mem with old | mem
    · rw [Table.eq_of_id old selected.1 id]
      exact own
    · rcases Table.mem_replace mem with ⟨different, _⟩ | rfl
      · exact absurd id different
      · exact kept.trans own

/-- A put with another key spares the row. -/
theorem turn_other
    (upserts : Upserts (account.keyClause (account.key draft)) (.ok draft)
      (fun _ => .quiet (account.refresh draft)) before upserted after)
    (other : account.key draft ≠ some key) : (account.watch key).Turn before after false [] := by
  refine .spared (Watch.Same.of_upserts upserts fun stored mem id => ?_)
  show (stored.row.text? account.keyColumn == some key) = false
  rw [key_of_upserted upserts mem id]
  exact beq_eq_false_iff_ne.2 other

/-- A put with the key opens the row or renews it. -/
theorem turn_own
    (upserts : Upserts (account.keyClause (account.key draft)) (.ok draft)
      (fun _ => .quiet (account.refresh draft)) before upserted after)
    (own : account.key draft = some key) :
    (account.watch key).Turn before after false [⟨upserted.id, ⟨account, draft⟩⟩] := by
  have isIt {stored : Stored account.entity}
      (mem : stored ∈ before.rows account.entity ++ after.rows account.entity)
      (id : stored.id = upserted.id) : (account.watch key).isIt stored = true :=
    beq_iff_eq.2 ((key_of_upserted upserts mem id).trans own)
  cases upserts with
  | @created table given row stands fresh drafted makes =>
    rw [Database.rows_of_table stands, Database.rows_put] at isIt
    cases drafted
    have mem : ⟨table.nextId, row⟩ ∈ (table.append row).rows := Table.mem_append.2 (.inr rfl)
    have shows_ := Draft.shows makes.stamps makes.filled
    refine Watch.Turn.opened ⟨table.nextId, row⟩ ?_ ?_
      (isIt (List.mem_append_right _ mem) rfl) ⟨draft, rfl, fun column _ => shows_ column⟩
      ⟨draft, rfl, fun column _ => shows_ column⟩
    · intro old oldMem
      rw [Database.rows_of_table stands] at oldMem
      refine Bool.eq_false_iff.2 fun same => List.filter_eq_nil_iff.1 fresh old oldMem ?_
      rw [Account.keyClause_holds, own]
      exact ⟨rfl, beq_iff_eq.1 same⟩
    · rw [Database.rows_put]
      exact mem
  | @revised table first revision row stands found decided makes =>
    rw [Database.rows_of_table stands, Database.rows_put] at isIt
    cases decided
    have oldMem : first ∈ table.rows := List.mem_of_mem_filter (List.mem_of_mem_head? found)
    have mem := Table.mem_replace_self row oldMem
    refine Watch.Turn.renewed ⟨first.id, row⟩ ?_
      (isIt (List.mem_append_left _ oldMem) rfl) ?_ (isIt (List.mem_append_right _ mem) rfl) rfl
      ?_ ⟨draft, rfl, ?_⟩
    · rw [Database.rows_of_table stands]
      exact oldMem
    · rw [Database.rows_put]
      exact mem
    · rintro _ ⟨earlier, rfl, shows_⟩
      refine ⟨earlier, rfl, fun column fixed => ?_⟩
      rw [Revision.keeps makes.filled column (if_pos (account.isFixed_of_createOnly column fixed))]
      exact shows_ column fixed
    · intro column refreshed
      have set : account.refresh draft column = .set (draft column) :=
        if_neg (by simp [account.isFixed_of_refreshed column refreshed])
      exact Revision.shows makes.stamps makes.filled column set

end AccountPut

/-! ## The watch -/

namespace Account

theorem watch_unique (onePerKey : OnePerKey (database.rows account.entity)) :
    (account.watch key).Unique (database.rows account.entity) := by
  intro a memA b memB ownA ownB
  refine onePerKey a memA b memB (.name key) ?_ ?_
  · rw [naturalKey?_eq, beq_iff_eq.1 ownA]
    rfl
  · rw [naturalKey?_eq, beq_iff_eq.1 ownB]
    rfl

theorem turn_put {put : AccountPut} (puts : request.call.accountPut? = some put) :
    (account.watch key).Turn database (request.apply settings database) false
      ((account.watch key).puts settings request database) := by
  obtain ⟨other, draft⟩ := put
  have applied : request.apply settings database =
      (AccountPut.route ⟨other, draft⟩ database).database := by
    unfold Request.apply
    rw [Call.perform_accountPut puts]
    rfl
  rw [applied]
  simp only [watch, puts]
  cases answered : (AccountPut.route ⟨other, draft⟩ database).result with
  | error failure =>
    have undone : (AccountPut.route ⟨other, draft⟩ database).database = database :=
      transact_error answered
    rw [undone, ite_self]
    exact .kept rfl
  | ok upserted =>
    have upserts := AccountPut.route_ok answered
    by_cases same : other = account
    · subst same
      by_cases own : other.key draft = some key
      · rw [if_pos ⟨rfl, own⟩]
        exact AccountPut.turn_own upserts own
      · rw [if_neg fun both => own both.2]
        exact AccountPut.turn_other upserts own
    · rw [if_neg fun both => same both.1]
      exact .kept (Database.rows_congr
        (upserts.other_table fun entities => same (eq_of_entity entities)))

/-- **Every request spares the account, puts it or takes it out.** -/
theorem watch_lawful (account : Account) (key : String) (settings : Settings) :
    (account.watch key).Lawful settings fun database => Sound (database.rows account.entity) where
  unique sound := watch_unique sound.onePerKey
  keeps request sound := request.call.perform_keeps (stable_sound account.entity) sound
  turn {database} request sound := by
    cases puts : request.call.accountPut? with
    | some put =>
      rw [Watch.takesOut_eq_false fun criterion called => by rw [called] at puts; cases puts]
      exact turn_put puts
    | none =>
      have silent : (account.watch key).puts settings request database = [] := by
        simp only [watch, puts]
      rw [silent]
      by_cases deletes : ∃ criterion, request.call = .delete account.entity criterion
      · obtain ⟨criterion, called⟩ := deletes
        exact Watch.turn_delete (watch_unique sound.onePerKey) called
      · have undeleted : ∀ criterion, request.call ≠ .delete account.entity criterion :=
          fun criterion called => deletes ⟨criterion, called⟩
        rw [Watch.takesOut_eq_false undeleted]
        exact .kept (Database.rows_congr (Call.accounts_kept (by simp [puts]) undeleted))

end Account

end FarmLedger
