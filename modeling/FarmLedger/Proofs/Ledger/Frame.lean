/-
# FarmLedger.Proofs.Ledger.Frame — which tables a call writes to

`Call.writes` names the entities that a call may change rows of; rates come with their averages,
and reading changes nothing. `Call.perform_other` is the frame: every other table is afterwards
what it was, whatever the call answers. What is to be shown of one table therefore only looks at
the calls that write to it.
-/
import FarmLedger.Ledger.Basic
import FarmLedger.Proofs.Storage.Upsert

namespace FarmLedger

open FarmLedger.Time

/-- The entities whose rows a call may change. -/
def Call.writes : Call → List Entity
  | putTokenPrice _ => [.tokenPrice]
  | putInterestRate _ => [.interestRate, .interestRateMovingAverage]
  | putInterestRateCurve _ => [.interestRateCurve]
  | putStakingAnalytic _ => [.stakingAnalytic]
  | putSample log _ => [log.entity]
  | putAccount account _ => [account.entity]
  | putVault _ => [.vault]
  | putSplit _ => [.lendingOptimizerDistribution]
  | putUserFarm _ => [.v1UserFarm]
  | registerObligation _ _ => [.v1ObligationAccount]
  | putLiquidation _ => [.v1LiquidatedPosition]
  | delete e _ => [e]
  | read _ _ _ | readByLtv _ | readPage _ _ _ _ | readPricePage _ _ _ _ _ _ | readPairs _ => []

variable {α : Type} {e : Entity} {database : Database}

theorem transact_other {work : Transaction α} (spares : work.Spares e) :
    (transact work database).database e = database e := by
  rcases transact_cases work database with ⟨_, after, ran, whole⟩ | ⟨_, _, kept⟩
  · rw [whole]
    exact spares ran
  · rw [kept]

theorem attempt_other {work : Except Failure (Transaction α)}
    (spares : ∀ prepared, work = .ok prepared → prepared.Spares e) :
    (attempt work database).database e = database e := by
  cases work with
  | error _ => rfl
  | ok prepared => exact transact_other (spares prepared rfl)

theorem attempt_map_other {β : Type} {given : Except Failure β} {work : β → Transaction α}
    (spares : ∀ b, (work b).Spares e) :
    (attempt (given.map work) database).database e = database e := by
  apply attempt_other
  intro prepared ready
  obtain ⟨b, _, rfl⟩ := ok_of_map ready
  exact spares b

/-- Asking changes nothing. -/
theorem ask_database (question : Database → Except Failure α) :
    (ask question database).database = database := by
  rcases transact_cases (Transaction.read question) database with
    ⟨_, after, ran, reached⟩ | ⟨_, _, kept⟩
  · obtain ⟨_, rfl⟩ := Transaction.ran_ofExcept (Transaction.ran_get ran)
    exact congrArg Outcome.database reached
  · exact kept

theorem ask_other (question : Database → Except Failure α) :
    (ask question database).database e = database e := by
  rw [ask_database]

namespace Transaction

theorem spares_append {other : Entity} {draft : Draft other} (different : other ≠ e) :
    (append other draft).Spares e :=
  spares_bind (spares_insert draft different) fun _ => spares_pure _

theorem spares_ignored {other : Entity} {criterion : Criterion}
    {create : Except Failure (Draft other)} {revise : Row other → Revising other}
    (different : other ≠ e) :
    (do let _ ← upsert other criterion create revise : Transaction Unit).Spares e :=
  spares_bind (spares_upsert different) fun _ => spares_pure _

end Transaction

open Transaction

theorem recordPrice_other {settings : Settings} {now : Timestamp} {sample : PriceSample}
    (different : .tokenPrice ≠ e) :
    (recordPrice settings now sample database).database e = database e :=
  attempt_map_other fun _ => spares_ignored different

theorem recordRate_other {settings : Settings} {now : Timestamp} {sample : RateSample}
    (rate : .interestRate ≠ e) (average : .interestRateMovingAverage ≠ e) :
    (recordRate settings now sample database).database e = database e :=
  transact_other (spares_bind (spares_insert _ rate) fun _ => spares_ignored average)

theorem putStakingAnalytic_other {sample : StakingSample} (different : .stakingAnalytic ≠ e) :
    (attempt (putStakingAnalytic sample) database).database e = database e := by
  apply attempt_other
  intro prepared ready
  unfold putStakingAnalytic at ready
  split at ready
  · cases ready
  · split at ready
    · cases ready
    · cases ready
      exact spares_append different

/-- **A call changes no table but those that it writes to.** -/
theorem Call.perform_other {settings : Settings} {now : Timestamp} {call : Call}
    (outside : e ∉ call.writes) :
    (call.perform settings now database).database e = database e := by
  cases call with
  | putTokenPrice sample => exact recordPrice_other (List.ne_of_not_mem_cons outside).symm
  | putInterestRate sample =>
    have average := List.not_mem_of_not_mem_cons outside
    exact recordRate_other (List.ne_of_not_mem_cons outside).symm
      (List.ne_of_not_mem_cons average).symm
  | putInterestRateCurve sample =>
    exact attempt_map_other fun _ => spares_append (List.ne_of_not_mem_cons outside).symm
  | putStakingAnalytic sample =>
    exact putStakingAnalytic_other (List.ne_of_not_mem_cons outside).symm
  | putSample log draft =>
    exact transact_other (spares_append (List.ne_of_not_mem_cons outside).symm)
  | putAccount account draft =>
    exact transact_other (spares_ignored (List.ne_of_not_mem_cons outside).symm)
  | putVault state =>
    exact attempt_map_other fun _ => spares_ignored (List.ne_of_not_mem_cons outside).symm
  | putSplit split =>
    exact attempt_map_other fun _ => spares_ignored (List.ne_of_not_mem_cons outside).symm
  | putUserFarm farm =>
    exact attempt_map_other fun _ => spares_ignored (List.ne_of_not_mem_cons outside).symm
  | registerObligation account authority =>
    exact transact_other (spares_ignored (List.ne_of_not_mem_cons outside).symm)
  | putLiquidation report =>
    exact transact_other (spares_ignored (List.ne_of_not_mem_cons outside).symm)
  | delete other criterion =>
    exact remove_other criterion database (List.ne_of_not_mem_cons outside).symm
  | read other criterion limit => exact ask_other _
  | readByLtv criterion => exact ask_other _
  | readPage other criterion number size => exact ask_other _
  | readPricePage criterion start finish number size byTime => exact ask_other _
  | readPairs criterion => exact ask_other _

end FarmLedger
