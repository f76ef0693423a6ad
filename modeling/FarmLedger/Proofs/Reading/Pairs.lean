/-
# FarmLedger.Proofs.Reading.Pairs — averages beside their newest samples

The search for the newest sample of a pair goes through the log by ascending id and keeps a sample
unless one comes that is at least as new. `Leads` says what it has found up to a position;
`Leads.next` is one step, and `leads_foldl` the whole search. What it comes to is therefore the last
sample of the pair by time and then by id, wherever in the log it stands (`newest_of_latestRate`),
and it comes to nothing only where the pair has no sample (`latestRate_eq_none_iff`).

The averages that match are taken one by one, and the first that has no sample ends the reading.
`pairs_are_newest` puts it together: which of the two refusals comes when, and what is answered
otherwise.
-/
import FarmLedger.Proofs.Ledger.Frame
import FarmLedger.Proofs.Reading.Series
import Mathlib.Data.List.Induction

namespace FarmLedger

open FarmLedger.Time RowOrder

variable {rates : List (Stored .interestRate)} {platform asset : String}

/-! ## The newest sample of a pair -/

/-- One sample comes before another one, by time and then by id. -/
abbrev RateBefore : Stored .interestRate → Stored .interestRate → Prop :=
  ByTimeThenId Series.interestRate.time

/-- What the search has found among some samples: the last of them, unless there is none. -/
def Leads (rates : List (Stored .interestRate)) : Option (Stored .interestRate) → Prop
  | none => rates = []
  | some latest => latest ∈ rates ∧ ∀ rate ∈ rates, rate ≠ latest → RateBefore rate latest

/-- A step of the search for the newest sample. -/
def newerRate (best : Option (Stored .interestRate)) (rate : Stored .interestRate) :
    Option (Stored .interestRate) :=
  match best with
  | none => some rate
  | some old => if (old.row .scrapedAt : Moment) ≤ rate.row .scrapedAt then some rate else best

theorem Leads.next {best : Option (Stored .interestRate)} {rate : Stored .interestRate}
    (leads : Leads rates best) (later : ∀ old ∈ rates, old.id < rate.id) :
    Leads (rates ++ [rate]) (newerRate best rate) := by
  cases best with
  | none =>
    obtain rfl : rates = [] := leads
    simp [newerRate, Leads]
  | some old =>
    obtain ⟨mem, last⟩ := leads
    by_cases newer : (old.row .scrapedAt : Moment) ≤ rate.row .scrapedAt
    · -- The samples before are not newer than the old one, and have lower ids than the new one.
      have best : newerRate (some old) rate = some rate := if_pos newer
      rw [best]
      refine ⟨by simp, fun other among different => ?_⟩
      have before : other ∈ rates := by simpa [different] using among
      have notNewer : Series.interestRate.time other.row ≤ Series.interestRate.time rate.row := by
        by_cases same : other = old
        · exact same ▸ newer
        · rcases last other before same with older | ⟨sameTime, _⟩
          · exact Nat.le_trans (Nat.le_of_lt older) newer
          · exact sameTime ▸ newer
      rcases Nat.lt_or_eq_of_le notNewer with older | sameTime
      · exact .inl older
      · exact .inr ⟨Moment.eq_of_micros sameTime, later other before⟩
    · have best : newerRate (some old) rate = some old := if_neg newer
      rw [best]
      refine ⟨List.mem_append_left _ mem, fun other among different => ?_⟩
      rcases List.mem_append.1 among with before | isNew
      · exact last other before different
      · obtain rfl : other = rate := List.mem_singleton.1 isNew
        exact .inl (Nat.lt_of_not_le newer)

theorem leads_foldl (ids : (rates.map Stored.id).Pairwise (· < ·)) :
    Leads rates (rates.foldl newerRate none) := by
  induction rates using List.reverseRecOn with
  | nil => rfl
  | append_singleton rates rate ih =>
    rw [List.map_append, List.pairwise_append] at ids
    rw [List.foldl_append]
    refine (ih ids.1).next fun old mem => ?_
    exact ids.2.2 _ (List.mem_map_of_mem mem) _ List.mem_cons_self

def OfPair (platform asset : String) (rate : Stored .interestRate) : Prop :=
  (rate.row .platform : String) = platform ∧ (rate.row .asset : String) = asset

instance (rate : Stored .interestRate) : Decidable (OfPair platform asset rate) :=
  inferInstanceAs (Decidable (_ ∧ _))

/-- The sample is the last one of its pair, by time and then by id. -/
structure NewestOfPair (rates : List (Stored .interestRate)) (platform asset : String)
    (latest : Stored .interestRate) : Prop where
  mem : latest ∈ rates
  ofPair : OfPair platform asset latest
  last : ∀ rate ∈ rates, OfPair platform asset rate → rate ≠ latest → RateBefore rate latest

def ratesOfPair (rates : List (Stored .interestRate)) (platform asset : String) :
    List (Stored .interestRate) :=
  rates.filter fun rate => rate.row .platform == platform && rate.row .asset == asset

theorem mem_ratesOfPair {rate : Stored .interestRate} :
    rate ∈ ratesOfPair rates platform asset ↔ rate ∈ rates ∧ OfPair platform asset rate := by
  simp [ratesOfPair, OfPair]

theorem leads_latestRate (ids : (rates.map Stored.id).Pairwise (· < ·)) :
    Leads (ratesOfPair rates platform asset) (latestRate rates platform asset) :=
  leads_foldl (ids.sublist (List.filter_sublist.map Stored.id))

theorem latestRate_eq_none_iff (ids : (rates.map Stored.id).Pairwise (· < ·)) :
    latestRate rates platform asset = none ↔ ∀ rate ∈ rates, ¬OfPair platform asset rate := by
  have leads := @leads_latestRate _ platform asset ids
  constructor
  · intro found rate mem ofPair
    rw [found] at leads
    have none_ : ratesOfPair rates platform asset = [] := leads
    have some_ := mem_ratesOfPair.2 ⟨mem, ofPair⟩
    simp [none_] at some_
  · intro without
    cases found : latestRate rates platform asset with
    | none => rfl
    | some latest =>
      rw [found] at leads
      obtain ⟨mem, ofPair⟩ := mem_ratesOfPair.1 leads.1
      exact absurd ofPair (without latest mem)

theorem latestRate_isSome {rate : Stored .interestRate}
    (ids : (rates.map Stored.id).Pairwise (· < ·)) (mem : rate ∈ rates)
    (ofPair : OfPair platform asset rate) :
    ∃ latest, latestRate rates platform asset = some latest := by
  rw [← Option.ne_none_iff_exists']
  intro none_
  exact (latestRate_eq_none_iff ids).1 none_ rate mem ofPair

theorem newest_of_latestRate {latest : Stored .interestRate}
    (ids : (rates.map Stored.id).Pairwise (· < ·))
    (found : latestRate rates platform asset = some latest) :
    NewestOfPair rates platform asset latest := by
  have leads := @leads_latestRate _ platform asset ids
  rw [found] at leads
  obtain ⟨among, last⟩ := leads
  obtain ⟨mem, ofPair⟩ := mem_ratesOfPair.1 among
  exact ⟨mem, ofPair, fun rate mem ofPair => last rate (mem_ratesOfPair.2 ⟨mem, ofPair⟩)⟩

/-! ## Pairs -/

/-- The sample has the platform and the asset of the average. -/
def SharesPair (average : Stored .interestRateMovingAverage) : Stored .interestRate → Prop :=
  OfPair (average.row .platform) (average.row .asset)

instance (average : Stored .interestRateMovingAverage) (rate : Stored .interestRate) :
    Decidable (SharesPair average rate) :=
  inferInstanceAs (Decidable (OfPair ..))

/-- The sample of the pair is the last one with the platform and the asset of the average. -/
def RatePair.IsNewest (pair : RatePair) (rates : List (Stored .interestRate)) : Prop :=
  NewestOfPair rates (pair.average.row .platform) (pair.average.row .asset) pair.latest

/-- The average with the newest sample of its pair. -/
def pairOf (criterion : Criterion) (rates : List (Stored .interestRate))
    (average : Stored .interestRateMovingAverage) : Except Failure RatePair :=
  match latestRate rates (average.row .platform) (average.row .asset) with
  | some latest => .ok ⟨average, latest⟩
  | none =>
    let name : String := average.row .rateName
    .error (.refused ⟨.notFound, Entity.table .interestRate,
      "no interest rate sample for " ++ name, some criterion.describe⟩)

variable {criterion : Criterion} {average : Stored .interestRateMovingAverage}

theorem pairOf_ok {pair : RatePair} (ids : (rates.map Stored.id).Pairwise (· < ·))
    (paired : pairOf criterion rates average = .ok pair) :
    pair.average = average ∧ pair.IsNewest rates := by
  unfold pairOf at paired
  split at paired
  · next latest found =>
    cases paired
    exact ⟨rfl, newest_of_latestRate ids found⟩
  · cases paired

/-- An average is refused if its pair has no sample, and then the entity of samples is named. -/
theorem pairOf_refused_iff (ids : (rates.map Stored.id).Pairwise (· < ·)) :
    NotFound (pairOf criterion rates average) .interestRate ↔
      ∀ rate ∈ rates, ¬SharesPair average rate := by
  rw [SharesPair, ← latestRate_eq_none_iff ids, pairOf]
  split
  · next latest found =>
    rw [found]
    exact iff_of_false (not_notFound_ok _) nofun
  · next found => exact iff_of_true ⟨_, _, rfl⟩ found

/-- There is no other way to be refused. -/
theorem pairOf_error {failure : Failure}
    (refused : pairOf criterion rates average = .error failure) :
    NotFound (pairOf criterion rates average) .interestRate := by
  unfold pairOf at refused ⊢
  split
  · next latest found =>
    rw [found] at refused
    cases refused
  · exact ⟨_, _, rfl⟩

theorem pairs_of_mapM {averages : List (Stored .interestRateMovingAverage)} {pairs : List RatePair}
    (ids : (rates.map Stored.id).Pairwise (· < ·))
    (paired : averages.mapM (pairOf criterion rates) = .ok pairs) :
    pairs.map RatePair.average = averages ∧ ∀ pair ∈ pairs, pair.IsNewest rates := by
  have each := mapM_ok_iff.1 paired
  clear paired
  induction each with
  | nil => simp
  | cons first _ ih =>
    obtain ⟨same, newest⟩ := pairOf_ok ids first
    exact ⟨by simp [same, ih.1], List.forall_mem_cons.2 ⟨newest, ih.2⟩⟩

/-- What comes of reading some averages, each with the newest sample of its pair. -/
structure Paired (rates : List (Stored .interestRate))
    (averages : List (Stored .interestRateMovingAverage))
    (result : Except Failure (List RatePair)) : Prop where
  /-- No average is found. -/
  noAverage_iff : NotFound result .interestRateMovingAverage ↔ averages = []
  /-- An average is found that no sample goes with. -/
  noRate_iff : NotFound result .interestRate ↔
    ∃ average ∈ averages, ∀ rate ∈ rates, ¬SharesPair average rate
  /-- Otherwise the averages come as they are read without samples, each with its newest one. -/
  answered : averages ≠ [] → (∀ average ∈ averages, ∃ rate ∈ rates, SharesPair average rate) →
    ∃ pairs, result = .ok pairs ∧ pairs.map RatePair.average = averages ∧
      ∀ pair ∈ pairs, pair.IsNewest rates

variable {averages : List (Stored .interestRateMovingAverage)}

theorem paired_none (detail : String) (matcher : Option String) :
    Paired rates [] (.error (.refused ⟨.notFound, Entity.table .interestRateMovingAverage,
      detail, matcher⟩)) := by
  have refused : NotFound (.error (.refused ⟨.notFound, Entity.table .interestRateMovingAverage,
      detail, matcher⟩) : Except Failure (List RatePair)) .interestRateMovingAverage :=
    ⟨detail, matcher, rfl⟩
  refine ⟨iff_of_true refused rfl, iff_of_false (fun other => ?_) (by simp), nofun⟩
  exact absurd (other.table_eq refused) (by decide)

theorem paired_mapM (ids : (rates.map Stored.id).Pairwise (· < ·)) (some_ : averages ≠ []) :
    Paired rates averages (averages.mapM (pairOf criterion rates)) := by
  cases paired : averages.mapM (pairOf criterion rates) with
  | ok pairs =>
    refine ⟨iff_of_false (not_notFound_ok _) some_, iff_of_false (not_notFound_ok _) ?_,
      fun _ _ => ⟨pairs, rfl, pairs_of_mapM ids paired⟩⟩
    rintro ⟨average, mem, without⟩
    obtain ⟨pair, _, result⟩ := ok_of_mapM paired average mem
    have refused := (@pairOf_refused_iff _ criterion average ids).2 without
    rw [result] at refused
    exact not_notFound_ok _ refused
  | error failure =>
    obtain ⟨average, mem, result⟩ := error_of_mapM paired
    have refused := pairOf_error result
    have without := (pairOf_refused_iff ids).1 refused
    rw [result] at refused
    refine ⟨iff_of_false (fun other => ?_) some_,
      iff_of_true refused.refused ⟨average, mem, without⟩, fun _ sampled => ?_⟩
    · exact absurd (refused.refused.table_eq other) (by decide)
    · obtain ⟨rate, among, shares⟩ := sampled average mem
      exact absurd shares (without rate among)

/-! ## The result -/

section Reading

variable {table : Table .interestRate} {database : Database}

theorem latestPairs_failed {failure : Failure}
    (read : readRows .interestRateMovingAverage criterion none database = .error failure) :
    latestPairs criterion database = .error failure := by
  have asked : Query.rows { criterion } none database = .error failure := read
  rw [latestPairs, asked]
  rfl

theorem latestPairs_eq (stands : database .interestRate = some table)
    (read : readRows .interestRateMovingAverage criterion none database = .ok averages)
    (some_ : averages ≠ []) :
    latestPairs criterion database = averages.mapM (pairOf criterion table.rows) := by
  have asked : Query.rows { criterion } none database = .ok averages := read
  rw [latestPairs, asked, Database.table_eq stands]
  cases averages with
  | nil => exact absurd rfl some_
  | cons first rest => rfl

/-- **Each average is read with the newest sample of its pair.** Reading them fails as reading the
averages alone does, and else is refused if there are none, or if one of them has no sample. What is
answered are the averages as they are read alone, each with the sample of its platform and asset
that is the last by time and then by id; and whatever is answered, no table is changed. -/
theorem pairs_are_newest (criterion : Criterion) (stands : database .interestRate = some table) :
    (ask (latestPairs criterion) database).database = database ∧
    (∀ failure, readRows .interestRateMovingAverage criterion none database = .error failure →
      (ask (latestPairs criterion) database).result = .error failure) ∧
    ∀ averages, readRows .interestRateMovingAverage criterion none database = .ok averages →
      Paired table.rows averages (ask (latestPairs criterion) database).result := by
  have answer : (ask (latestPairs criterion) database).result = latestPairs criterion database :=
    transact_read _
  refine ⟨ask_database _, ?_, ?_⟩
  · intro failure read
    rw [answer, latestPairs_failed read]
  · intro averages read
    rw [answer]
    by_cases none_ : averages = []
    · subst none_
      have asked : Query.rows { criterion } none database = .ok [] := read
      rw [latestPairs, asked]
      exact paired_none _ _
    · rw [latestPairs_eq stands read none_]
      exact paired_mapM table.ascending none_

end Reading

/-- A sample of a pair, taken so many microseconds after the beginning. -/
def rateAt (id : Nat) (platform asset : String) (micros : Nat) : Stored .interestRate where
  id := id
  row := ⟨fun
    | .platform => platform
    | .asset => asset
    | .lendingRate | .borrowRate | .utilizationRate => (0.5 : Float)
    | .availableAmount | .borrowedAmount => (8 : Float)
    | .scrapedAt => Moment.early micros⟩

/-- Samples that were not taken in the order in which they were recorded, two of them at once. -/
def sampledRates : Table .interestRate where
  rows := [rateAt 1 "TULIP" "RAY" 20, rateAt 2 "TULIP" "RAY" 40, rateAt 3 "TULIP" "RAY" 40,
    rateAt 4 "TULIP" "RAY" 10, rateAt 5 "TULIP" "SOL" 50]
  ascending := by decide

/-- An average of a pair that was begun at the beginning. -/
def averageOf (id : Nat) (platform asset : String) : Stored .interestRateMovingAverage where
  id := id
  row := ⟨fun
    | .platform => platform
    | .asset => asset
    | .rateName => rateName platform asset
    | .periodStart | .periodEnd => Moment.early 0
    | .periodRunningAverage => (0.5 : Float)
    | .periodObservedRates => some [(0.5 : Float)]
    | .lastPeriodRunningAverage => (0.5 : Float)⟩

/-- Averages of two pairs of a platform, and of a pair whose samples were taken out. -/
def startedAverages : Table .interestRateMovingAverage where
  rows := [averageOf 1 "TULIP" "RAY", averageOf 2 "TULIP" "SOL", averageOf 4 "ORCA" "RAY"]
  ascending := by decide

def sampledAndStarted : Database :=
  (Database.empty.put .interestRate sampledRates).put .interestRateMovingAverage startedAverages

/-- Of two samples that are equally new the later one is read. The averages of the platform are
read, and all averages together are not. -/
theorem sampledRates_paired :
    (∃ pairs, (ask (latestPairs (.matcher (.byField "platform" [some "tulip"])))
        sampledAndStarted).result = .ok pairs ∧
      (pairs.map fun pair => (pair.average.id, pair.latest.id)) = [(1, 3), (2, 5)] ∧
      ∀ pair ∈ pairs, pair.IsNewest sampledRates.rows) ∧
    NotFound (ask (latestPairs (.matcher .all)) sampledAndStarted).result .interestRate := by
  have stands : sampledAndStarted .interestRate = some sampledRates := rfl
  constructor
  · let tulip : Criterion := .matcher (.byField "platform" [some "tulip"])
    have read : readRows .interestRateMovingAverage tulip none sampledAndStarted =
        .ok [averageOf 1 "TULIP" "RAY", averageOf 2 "TULIP" "SOL"] := rfl
    obtain ⟨pairs, answered, _, newest⟩ :=
      ((pairs_are_newest tulip stands).2.2 _ read).answered (by simp) (by decide)
    have evaluated : (ask (latestPairs tulip) sampledAndStarted).result =
        .ok [⟨averageOf 1 "TULIP" "RAY", rateAt 3 "TULIP" "RAY" 40⟩,
          ⟨averageOf 2 "TULIP" "SOL", rateAt 5 "TULIP" "SOL" 50⟩] := rfl
    obtain rfl := Except.ok.inj (evaluated.symm.trans answered)
    exact ⟨_, answered, rfl, newest⟩
  · have read : readRows .interestRateMovingAverage (.matcher .all) none sampledAndStarted =
        .ok startedAverages.rows := rfl
    have paired := (pairs_are_newest (.matcher .all) stands).2.2 _ read
    refine paired.noRate_iff.2 ⟨averageOf 4 "ORCA" "RAY", by simp [startedAverages], by decide⟩

end FarmLedger
