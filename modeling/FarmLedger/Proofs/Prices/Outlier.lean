/-
# FarmLedger.Proofs.Prices.Outlier — no outlier enters a window

The guard compares a price with the last sample of the window, or with its mean if there is none.
There always is one: a row begins with a sample and no window is ever empty. So what a row holds
is settled (`Row.WithinLimit`): neighbouring samples differ by no more than the limit, also over
a long run and across windows that were closed in between, no sample is no number, and the feed is
stopped exactly when the price that is shown is not the last sample but an outlier to it.

`price_rows_within_limit` says this of all rows that a run from empty tables leaves. That a sample
is a number rests on the column of the latest price, which takes no other
(`Row.Shows.number`); and a deviation does not see the sign of a zero (`deviation_congr`), so that
what is stored by value deviates as what was handed over.
-/
import FarmLedger.Proofs.Prices.Put
import Mathlib.Data.List.Chain

namespace FarmLedger

open FarmLedger.Number FarmLedger.Time

/-! ## Deviations by value -/

theorem deviation_congr {x y w z : Float} (previous : Alike x y) (candidate : Alike w z) :
    deviation x w = deviation y z := by
  unfold deviation
  rw [previous.beq_eq (.refl 0.0), (candidate.sub previous).abs_eq, previous.abs_eq]

/-- Neighbouring samples deviate by no more than the limit. -/
def Steady (limit : Float) (samples : List Float) : Prop :=
  samples.IsChain fun previous candidate => deviation previous candidate ≤ limit

variable {limit x y : Float} {xs ys : List Float}

theorem Steady.of_sameReals (same : sameReals xs ys = true) (steady : Steady limit ys) :
    Steady limit xs := by
  have pairs := sameReals_iff.1 same
  unfold Steady at *
  induction pairs with
  | nil => exact .nil
  | cons first rest ih =>
    cases rest with
    | nil => exact .singleton _
    | cons second rest =>
      rw [List.isChain_cons_cons] at steady ⊢
      rw [deviation_congr (alike_of_beq first) (alike_of_beq second)]
      exact ⟨steady.1, ih (by rw [sameReals_iff]; exact .cons second rest) steady.2⟩

theorem Steady.append_singleton (steady : Steady limit xs) (last : xs.getLast? = some x)
    (near : deviation x y ≤ limit) : Steady limit (xs ++ [y]) := by
  refine List.isChain_append.2 ⟨steady, .singleton _, ?_⟩
  intro previous isLast candidate isHead
  obtain rfl : x = previous := Option.some.inj (last.symm.trans isLast)
  obtain rfl : y = candidate := Option.some.inj isHead
  exact near

/-! ## One price -/

/-- The row's samples are steady numbers, and its feed is stopped just when the price that it shows
is not the last of them. -/
def Row.WithinLimit (row : Row .tokenPrice) (limit : Float) : Prop :=
  ∃ samples last, (row .periodObservedPrices : Option (List Float)) = some samples ∧
    samples.getLast? = some last ∧ (∀ x ∈ samples, x.isNaN = false) ∧ Steady limit samples ∧
    ((row .feedStopped : Bool) = false → ((row .price : Float) == last) = true) ∧
    ((row .feedStopped : Bool) = true → ¬ deviation last (row .price) ≤ limit)

variable {guard : Guard} {length : Duration} {now : Timestamp} {sample : PriceSample}
  {old row : Row .tokenPrice} {window given : Window} {price : Float}

theorem samples_of_priceWindow (held : priceWindow row = .ok window) :
    (row .periodObservedPrices : Option (List Float)) = some window.samples := by
  unfold priceWindow at held
  split at held
  · cases held
  · next samples stored =>
    cases held
    exact stored

theorem Row.Shows.number {stopped : Bool} (shows : row.Shows price stopped) :
    price.isNaN = false :=
  not_isNaN_of_beq (beq_symm shows.price)

/-- A row whose window ends with the price that it shows. -/
theorem withinLimit_of_last (front : List Float) (shows : row.Shows price false)
    (keeps : row.KeepsWindow given) (samples : given.samples = front ++ [price])
    (numbers : ∀ x ∈ front, x.isNaN = false) (steady : Steady limit (front ++ [price])) :
    row.WithinLimit limit := by
  obtain ⟨kept, held, keeps⟩ := keeps
  have number := shows.number
  have self : sameReals (front ++ [price]) (front ++ [price]) = true := by
    apply sameReals_self
    intro x mem
    rcases List.mem_append.1 mem with before | last
    · exact numbers x before
    · rw [List.mem_singleton.1 last]
      exact number
  have same : sameReals kept.samples (front ++ [price]) = true := keeps.sameReals (samples ▸ self)
  obtain ⟨last, isLast, equal⟩ := last_of_sameReals same
  refine ⟨kept.samples, last, samples_of_priceWindow held, isLast, numbers_of_sameReals same,
    steady.of_sameReals same, ?_, ?_⟩
  · intro _
    exact beq_trans shows.price (beq_symm equal)
  · intro stopped
    rw [shows.feedStopped] at stopped
    cases stopped

theorem withinLimit_created (quotes : Quotes guard length now sample none row) :
    row.WithinLimit guard.limit := by
  cases quotes with
  | created begun names shows keeps =>
    obtain ⟨_, _, _, _, rfl⟩ := Window.begin_ok begun
    exact withinLimit_of_last [] shows keeps rfl (List.forall_mem_nil _) (.singleton _)

theorem withinLimit_revised (within : old.WithinLimit guard.limit)
    (quotes : Quotes guard length now sample (some old) row) : row.WithinLimit guard.limit := by
  obtain ⟨samples, last, stored, isLast, numbers, steady, _, _⟩ := within
  cases quotes with
  | @accepted _ _ window update held judged observed names shows keeps =>
    obtain rfl : samples = window.samples :=
      Option.some.inj (stored.symm.trans (samples_of_priceWindow held))
    have standing : window.standing = last := by
      unfold Window.standing Window.lastSample
      rw [isLast, Option.getD_some]
    have near : deviation last sample.price ≤ guard.limit := by
      rw [standing] at judged
      exact of_decide_eq_true judged
    obtain ⟨moment, _, ⟨_, finish, _, next⟩ | ⟨_, m, _, next⟩⟩ :=
      Window.observeOrRollOver_ok observed
    · rw [next] at keeps
      exact withinLimit_of_last [] shows keeps rfl (List.forall_mem_nil _) (.singleton _)
    · rw [next] at keeps
      exact withinLimit_of_last _ shows keeps rfl numbers (steady.append_singleton isLast near)
  | @rejected _ _ window held judged names shows keeps =>
    obtain rfl : samples = window.samples :=
      Option.some.inj (stored.symm.trans (samples_of_priceWindow held))
    have standing : window.standing = last := by
      unfold Window.standing Window.lastSample
      rw [isLast, Option.getD_some]
    refine ⟨window.samples, last, samples_of_priceWindow keeps, isLast, numbers, steady, ?_, ?_⟩
    · intro running
      rw [shows.feedStopped] at running
      cases running
    · intro _ near
      rw [deviation_congr (.refl last) (alike_of_beq shows.price), ← standing] at near
      exact Bool.false_ne_true (judged.symm.trans (decide_eq_true near))

/-! ## Runs -/

/-- **No outlier enters a window, and a stopped feed shows one.** Whatever a run from empty tables
did, the limit is one that the settings resolve to, and every price row has samples, all of them
numbers, that differ from their neighbours by no more than the limit; it shows the last of them
while the feed runs, and something out of bounds from it while the feed is stopped. -/
theorem price_rows_within_limit {ledger : Ledger} {steps : List Step} {stored : Stored .tokenPrice}
    (fresh : ledger.database = Database.fresh)
    (allowed : ∀ step ∈ steps, step.isRequest = true)
    (mem : stored ∈ (ledger.run steps).1.database.rows .tokenPrice) :
    ∃ limit, resolveLimit ledger.settings.limit = .ok limit ∧ stored.row.WithinLimit limit := by
  refine run_price_rows
    (P := fun row => ∃ limit, resolveLimit ledger.settings.limit = .ok limit ∧
      row.WithinLimit limit)
    fresh allowed ?_ stored mem
  intro guard now sample old row limited within quotes
  obtain ⟨limit, resolved, rfl⟩ := ok_of_map limited
  refine ⟨limit, resolved, ?_⟩
  cases old with
  | none => exact withinLimit_created quotes
  | some old =>
    obtain ⟨limit', resolved', before⟩ := within old rfl
    obtain rfl : limit = limit' := Except.ok.inj (resolved.symm.trans resolved')
    exact withinLimit_revised before quotes

/-- A price, and one that is twice as high. -/
def priceAndOutlier : List Step := [
  .call (.putTokenPrice ⟨"RAY", "ORCA", 2.0, 0.0, 0.0, some "mint"⟩),
  .call (.putTokenPrice ⟨"RAY", "ORCA", 4.0, 0.0, 0.0, some "mint"⟩)]

/-- After an outlier there is a row to speak of, and its feed is stopped. -/
theorem priceAndOutlier_within_limit :
    ∃ stored ∈ (emptyLedger.run priceAndOutlier).1.database.rows .tokenPrice,
      (stored.row .feedStopped : Bool) = true ∧
      ∃ limit, resolveLimit emptyLedger.settings.limit = .ok limit ∧
        stored.row.WithinLimit limit := by
  have stopped : ∃ stored ∈ (emptyLedger.run priceAndOutlier).1.database.rows .tokenPrice,
      (stored.row .feedStopped : Bool) = true := by
    decide +kernel
  obtain ⟨stored, mem, stopped⟩ := stopped
  exact ⟨stored, mem, stopped,
    price_rows_within_limit rfl (by simp [priceAndOutlier, Step.isRequest]) mem⟩

end FarmLedger
