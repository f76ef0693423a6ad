/-
# FarmLedger.Proofs.Writers.Compound — the last compounding, told twice

A vault's row tells of its last compounding as a moment and once more in whole seconds since 1970.
Both come from one put (`vault_row_of_put`), and so from one state (`vault_row_of_state`), whose
seconds are those of its moment. They are counted by a double: the microseconds divided and the
fraction cut off. `wholeSeconds_eq` says what that comes to. Up to 2³⁴ seconds before and after 1970
it is the number of seconds that are over (`wholeSeconds_near`), but further away a moment may be so
near to the end of its second that the double is already the next one.
-/
import FarmLedger.Proofs.Number.Whole
import FarmLedger.Proofs.Writers.Accounts

namespace FarmLedger

open FarmLedger.Number FarmLedger.Time

/-! ## Seconds -/

/-- The whole seconds between a moment and the beginning of the year 1970. -/
def secondsOver (moment : Moment) : Int :=
  moment.sinceEpoch.tdiv microsPerSecond

theorem seconds_lt (moment : Moment) : moment.sinceEpoch.natAbs / microsPerSecond < 2 ^ 52 := by
  have within : moment.micros < 3652059 * 86400000000 := moment.inCalendar
  show (moment.micros - (719162 : Nat) * (86400000000 : Nat) : Int).natAbs / 1000000 < _
  omega

/-- The seconds of a moment are those that are over, or one more if the next one is near. -/
theorem wholeSeconds_eq (moment : Moment) :
    wholeSeconds moment = secondsOver moment +
      if RoundsUp moment.sinceEpoch.natAbs microsPerSecond then moment.sinceEpoch.sign else 0 :=
  truncate_ofQuotient (by decide) (by decide) (log2_lt_of_lt (by decide) (seconds_lt moment))

/-- Less than 2³⁴ seconds from 1970, which is some 544 years, no second is told too early. -/
theorem wholeSeconds_near {moment : Moment}
    (near : moment.sinceEpoch.natAbs < 2 ^ 34 * microsPerSecond) :
    wholeSeconds moment = secondsOver moment := by
  have few : (moment.sinceEpoch.natAbs / microsPerSecond).log2 < 34 :=
    log2_lt_of_lt (by decide) (Nat.div_lt_of_lt_mul (by rwa [Nat.mul_comm]))
  have fine : microsPerSecond < 2 ^ (53 - (moment.sinceEpoch.natAbs / microsPerSecond).log2) :=
    Nat.lt_of_lt_of_le (by decide : microsPerSecond < 2 ^ 20)
      (Nat.pow_le_pow_right (by decide) (by omega))
  rw [wholeSeconds_eq, if_neg (not_roundsUp (by decide) fine), Int.add_zero]

/-! ## Rows of vaults -/

namespace Row

/-- When a vault was last compounded, if ever. -/
def compounded (row : Row .vault) : Option Moment :=
  row .lastCompoundTs

/-- The same in seconds since 1970. -/
def compoundedSeconds (row : Row .vault) : Int :=
  row .lastCompoundTsUnix

/-- What a vault's row tells of its last compounding, in seconds and as a moment. -/
structure TellsCompounding (row : Row .vault) : Prop where
  /-- Without a moment there are no seconds. -/
  absent : row.compounded = none → row.compoundedSeconds = 0
  /-- The seconds are those that are over, or one more where their double is rounded up. -/
  seconds : ∀ moment, row.compounded = some moment →
    row.compoundedSeconds = secondsOver moment +
      if RoundsUp moment.sinceEpoch.natAbs microsPerSecond then moment.sinceEpoch.sign else 0
  /-- Near to 1970 they are those that are over. -/
  near : ∀ moment, row.compounded = some moment →
    moment.sinceEpoch.natAbs < 2 ^ 34 * microsPerSecond →
      row.compoundedSeconds = secondsOver moment

variable {row : Row .vault}

theorem tellsCompounding (told : row.compoundedSeconds = row.compounded.elim 0 wholeSeconds) :
    row.TellsCompounding where
  absent none_ := by rw [told, none_, Option.elim_none]
  seconds moment some_ := by rw [told, some_, Option.elim_some, wholeSeconds_eq]
  near moment some_ near := by rw [told, some_, Option.elim_some, wholeSeconds_near near]

end Row

variable {row : Row .vault} {state : VaultState} {draft : Draft .vault} {call : Call}
  {ledger : Ledger} {steps : List Step}

/-- A row that shows the state of a vault has the seconds of its moment. -/
theorem VaultState.seconds_of_shown (prepared : state.draft = .ok draft)
    (moment : Kind.optionalMoment.Shows (row .lastCompoundTs) (draft .lastCompoundTs))
    (seconds : Kind.whole.Shows (row .lastCompoundTsUnix) (draft .lastCompoundTsUnix)) :
    row.compoundedSeconds = row.compounded.elim 0 wholeSeconds := by
  obtain ⟨counted, counts, drafted⟩ := ok_of_bind prepared
  cases drafted
  have same : counted = row.compoundedSeconds := Option.some.inj seconds
  have kept : state.lastCompound.map Timestamp.toStored = row.compounded.map .ok := moment
  rw [← same]
  cases given : state.lastCompound with
  | none =>
    rw [given, Option.map_none, eq_comm, Option.map_eq_none_iff] at kept
    rw [lastCompoundSeconds, given] at counts
    rw [kept, Option.elim_none]
    exact (Except.ok.inj counts).symm
  | some stamp =>
    rw [given, Option.map_some, eq_comm, Option.map_eq_some_iff] at kept
    obtain ⟨moment, shown, stored⟩ := kept
    have read : stamp.toUtc = .ok moment :=
      Timestamp.toUtc_of_instant (Timestamp.instant_of_toStored stored.symm)
    simp only [lastCompoundSeconds, given, read] at counts
    rw [shown, Option.elim_some]
    exact (Except.ok.inj counts).symm

/-! ## Puts of vaults -/

/-- A put of a vault was prepared from its state, unless it brings a row of its own. -/
theorem Call.vaultState (puts : call.accountPut? = some ⟨.vault, draft⟩)
    (unready : ∀ given, call ≠ .putAccount .vault given) :
    ∃ state : VaultState, state.draft = .ok draft := by
  cases call with
  | putAccount account given =>
    cases puts
    exact absurd rfl (unready draft)
  | putVault state =>
    obtain ⟨given, ready, same⟩ := Option.map_eq_some_iff.1 puts
    cases same
    exact ⟨state, toOption_eq_some.1 ready⟩
  | putSplit split =>
    obtain ⟨_, _, other⟩ := Option.map_eq_some_iff.1 puts
    cases other
  | putUserFarm farm =>
    obtain ⟨_, _, other⟩ := Option.map_eq_some_iff.1 puts
    cases other
  | _ => cases puts

/-- What was put into an account, a call put into it. -/
theorem Account.of_mem_puts {account : Account} {key : String} {settings : Settings}
    {request : Request} {database : Database} {written : Written AccountPut}
    (mem : written ∈ (account.watch key).puts settings request database) :
    request.call.accountPut? = some written.sample := by
  simp only [Account.watch] at mem
  split at mem
  · next put puts =>
    split at mem
    · split at mem
      · cases List.mem_singleton.1 mem
        exact puts
      · cases mem
    · cases mem
  · cases mem

/-- The row of a vault shows what one of the calls put into it. -/
theorem vault_row_of_put {stored : Stored .vault} (fresh : ledger.database = Database.fresh)
    (allowed : ∀ step ∈ steps, step.isRequest = true)
    (mem : stored ∈ (ledger.run steps).1.database.rows .vault) :
    ∃ request ∈ ledger.requests steps, ∃ draft : Draft .vault,
      request.call.accountPut? = some ⟨.vault, draft⟩ ∧
        ∀ column ∈ Account.vault.refreshed,
          (Entity.vault.kind column).Shows (stored.row column) (draft column) := by
  have empty : ledger.database.rows .vault = [] := by
    rw [fresh, Database.rows_fresh]
  have lawful := Account.vault.watch_lawful (stored.row .accountAddress) ledger.settings
  have written := Ledger.writtenBy lawful (by rw [empty]; exact Sound.nil) empty allowed
  have own : (Account.vault.watch (stored.row .accountAddress)).isIt stored = true :=
    beq_self_eq_true (some (stored.row .accountAddress : String))
  have tells := written.tells
  cases entries : ledger.putsTo steps (Account.vault.watch (stored.row .accountAddress)) with
  | nil =>
    rw [entries] at tells
    rw [tells stored mem] at own
    cases own
  | cons first later =>
    rw [entries] at tells
    obtain ⟨other, otherMem, otherOwn, _, _, draft, same, shows_⟩ := tells
    obtain rfl := written.unique other otherMem stored mem otherOwn own
    have last : later.getLastD first ∈
        ledger.putsTo steps (Account.vault.watch (other.row .accountAddress)) := by
      rw [entries]
      exact List.getLastD_mem_cons ..
    rcases Watch.mem_noteAll last with none_ | ⟨request, among, before, put⟩
    · cases none_
    have puts := Account.of_mem_puts put
    rw [same] at puts
    exact ⟨request, among, draft, puts, shows_⟩

/-- The row of a vault shows a state that was put into it. -/
theorem vault_row_of_state {stored : Stored .vault} (fresh : ledger.database = Database.fresh)
    (allowed : ∀ step ∈ steps, step.isRequest = true)
    (prepared : ∀ draft, Step.call (.putAccount .vault draft) ∉ steps)
    (mem : stored ∈ (ledger.run steps).1.database.rows .vault) :
    ∃ (state : VaultState) (draft : Draft .vault), state.draft = .ok draft ∧
      ∀ column ∈ Account.vault.refreshed,
        (Entity.vault.kind column).Shows (stored.row column) (draft column) := by
  obtain ⟨request, among, draft, puts, shows_⟩ := vault_row_of_put fresh allowed mem
  have unready : ∀ given, request.call ≠ .putAccount .vault given := by
    intro given called
    rcases Ledger.mem_requests among with step | ⟨_, price⟩ | ⟨_, rate⟩
    · exact prepared given (called ▸ step)
    · cases called.symm.trans price
    · cases called.symm.trans rate
  obtain ⟨state, ready⟩ := Call.vaultState puts unready
  exact ⟨state, draft, ready, shows_⟩

/-- **The last compounding is told twice.** After any run from empty tables every row of a vault
tells of its last compounding as a moment and in whole seconds, and the seconds are those of the
moment: none without one, and otherwise those that are over since 1970, or still missing to it. The
double that counts them makes an exception of moments far away and next to the end of a second. -/
theorem compounding_told_twice (fresh : ledger.database = Database.fresh)
    (allowed : ∀ step ∈ steps, step.isRequest = true)
    (prepared : ∀ draft, Step.call (.putAccount .vault draft) ∉ steps) :
    ∀ stored ∈ (ledger.run steps).1.database.rows .vault, stored.row.TellsCompounding := by
  intro stored mem
  obtain ⟨state, draft, ready, shows_⟩ := vault_row_of_state fresh allowed prepared mem
  exact Row.tellsCompounding (VaultState.seconds_of_shown ready
    (shows_ .lastCompoundTs (by decide)) (shows_ .lastCompoundTsUnix (by decide)))

def lastMoment : Moment where
  micros := daysOfCalendar * microsPerDay - 1
  inCalendar := by decide

/-- Half a second before the year 1970, on a clock that is two hours behind UTC. -/
def justBefore1970 : Timestamp where
  wall := ⟨Moment.epochDay * microsPerDay - 7200 * microsPerSecond - 500000, by decide⟩
  offset := some ⟨-7200 * microsPerSecond, by decide⟩

/-- A vault whose state was read when the clock of an empty ledger was. -/
def vaultOf (address : String) (lastCompound : Option Timestamp) : Step :=
  .call (.putVault {
    farmName := some "farm"
    accountAddress := some address
    accountData := some ⟨#[1, 2]⟩
    scrapedAt := some emptyLedger.clock
    lastCompound })

/-- A vault that was never compounded, one that was just before 1970, and one that was at the very
last moment. -/
def threeVaults : List Step := [
  vaultOf "never" (some (.ofUtc lastMoment)),
  vaultOf "early" (some justBefore1970),
  vaultOf "last" (some (.ofUtc lastMoment)),
  vaultOf "never" none]

theorem threeVaults_told_twice :
    ((emptyLedger.run threeVaults).1.database.rows .vault).map
        (fun stored => (stored.row.compounded.map secondsOver, stored.row.compoundedSeconds)) =
      [(none, 0), (some 0, 0), (some 253402300799, 253402300800)] ∧
    ∀ stored ∈ (emptyLedger.run threeVaults).1.database.rows .vault,
      stored.row.TellsCompounding := by
  refine ⟨by decide +kernel, compounding_told_twice rfl (by decide +kernel) fun draft mem => ?_⟩
  simp [threeVaults, vaultOf] at mem

/-- The seconds of the last moment are not those that are over. -/
theorem lastMoment_told_late :
    ∃ stored ∈ (emptyLedger.run [vaultOf "last" (some (.ofUtc lastMoment))]).1.database.rows .vault,
      stored.row.compounded = some lastMoment ∧
        stored.row.compoundedSeconds = secondsOver lastMoment + 1 := by
  decide +kernel

end FarmLedger
