/-
# FarmLedger.Proofs.Keys.Natural — what a row is known by

Ten tables hold one row for each value of a natural key. The database guards it by keys of columns,
some of which cover only a part of the rows; `Row.naturalKey?` says it of a row directly, and
`Row.checkKeys_iff` that the guard is just this: a row may stand beside others exactly if none of
them has its natural key.

A row that keeps the columns of its keys (`Row.KeepsKeys`) keeps its natural key, so what is left
for an update is not to touch them.
-/
import FarmLedger.Proofs.Storage.Values
import FarmLedger.Storage.Table

namespace FarmLedger

variable {e : Entity}

/-- What tells the rows of a table apart. -/
inductive NaturalKey
  /-- The one text that the row is known by. -/
  | name (text : String)
  /-- The asset, for a price that has no venue. -/
  | unlisted (asset : String)
  deriving DecidableEq, Repr

/-- The natural key of a row, if its entity has one. -/
def Row.naturalKey? : {e : Entity} → Row e → Option NaturalKey
  | .tokenPrice, row =>
    some (if (row .platform : String) = Schema.noVenue then .unlisted (row .asset)
      else .name (row .assetIdentifier))
  | .interestRateMovingAverage, row => some (.name (row .rateName))
  | .vault, row => some (.name (row .accountAddress))
  | .depositTracking, row => some (.name (row .accountAddress))
  | .advertisedYield, row => some (.name (row .farmName))
  | .lendingOptimizerDistribution, row => some (.name (row .vaultName))
  | .v1ObligationAccount, row => some (.name (row .account))
  | .v1ObligationLtv, row => some (.name (row .accountAddress))
  | .v1UserFarm, row => some (.name (row .accountAddress))
  | .v1LiquidatedPosition, row => some (.name (row .liquidationEventId))
  | _, _ => none

/-- Two rows have a key of the table in common exactly if they have one natural key. -/
theorem Row.shares_iff {row other : Row e} :
    (∃ key ∈ e.schema.keys, row.shares other key = true) ↔
      ∃ key, other.naturalKey? = some key ∧ row.naturalKey? = some key := by
  cases e with
  | tokenPrice =>
    by_cases ours : (row .platform : String) = Schema.noVenue <;>
      by_cases theirs : (other .platform : String) = Schema.noVenue <;>
        simp [Row.shares, Row.naturalKey?, Row.text?, Kind.asText?, ours, theirs]
  | _ => simp [Row.shares, Row.naturalKey?, Row.text?, Kind.asText?]

/-- **A row may stand beside others** exactly if none of them has its natural key. -/
theorem Row.checkKeys_iff {row : Row e} {others : List (Row e)} :
    row.checkKeys others = .ok () ↔
      ∀ other ∈ others, ∀ key, row.naturalKey? = some key → other.naturalKey? ≠ some key := by
  have found : row.checkKeys others = .ok () ↔
      ∀ other ∈ others, ¬ ∃ key ∈ e.schema.keys, row.shares other key = true := by
    unfold Row.checkKeys
    cases clash : e.schema.keys.find? fun key => others.any fun other => row.shares other key with
    | none =>
      simp only [true_iff]
      rintro other mem ⟨key, keyMem, shares⟩
      exact List.find?_eq_none.1 clash key keyMem (List.any_eq_true.2 ⟨other, mem, shares⟩)
    | some key =>
      have clashes : (others.any fun other => row.shares other key) = true := by
        simpa using List.find?_some clash
      obtain ⟨other, mem, shares⟩ := List.any_eq_true.1 clashes
      simp only [reduceCtorEq, false_iff]
      intro apart
      exact apart other mem ⟨key, List.mem_of_find?_eq_some clash, shares⟩
  rw [found]
  refine forall₂_congr fun other _ => ?_
  rw [Row.shares_iff]
  simp only [not_exists, not_and]
  exact ⟨fun apart key ours theirs => apart key theirs ours,
    fun apart key theirs ours => apart key ours theirs⟩

/-- The row has the old one's values in all columns of keys. -/
def Row.KeepsKeys (row old : Row e) : Prop :=
  ∀ key ∈ e.schema.keys, ∀ column ∈ key.columns, row column = old column

theorem Row.KeepsKeys.naturalKey?_eq {row old : Row e} (keeps : row.KeepsKeys old) :
    row.naturalKey? = old.naturalKey? := by
  cases e with
  | tokenPrice =>
    have identifier := keeps _ List.mem_cons_self .assetIdentifier List.mem_cons_self
    have listed := keeps _ (List.mem_cons_of_mem _ List.mem_cons_self)
    have asset := listed .asset List.mem_cons_self
    have platform := listed .platform (List.mem_cons_of_mem _ List.mem_cons_self)
    simp only [Row.naturalKey?, identifier, asset, platform]
  | _ => simp_all [Row.KeepsKeys, Row.naturalKey?]

/-- A revision that leaves the columns of keys alone keeps the keys. -/
theorem Revision.keepsKeys {revision : Revision e} {old row : Row e}
    (filled : (revision.entries old).fill = .ok row)
    (keep : ∀ key ∈ e.schema.keys, ∀ column ∈ key.columns, revision column = .keep) :
    row.KeepsKeys old :=
  fun key keyMem column mem => Revision.keeps filled column (keep key keyMem column mem)

end FarmLedger
