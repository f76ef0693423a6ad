/-
# FarmLedger.Proofs.Window.History — a window retells the samples that it saw

A row holds one window, and adds to it or begins the next one as samples come. What it says about
the samples that came is stated without a window: `windowsOf` cuts them greedily, so that a window
takes in what comes until the first sample after its end, whatever the clock does in between.
`Window.Retells` says that a window holds the last of these, with the mean of the one before.

Writing a window to a row changes it by value only (`Window.Keeps`, `Keeps.of_holds`).
`Retells.begin` and `Retells.next` are what an invariant over runs needs: the first sample makes a
window that retells it, and a sample that goes through takes a window that retells some samples to
one that retells one more.
-/
import FarmLedger.Proofs.Number.Mean
import FarmLedger.Proofs.Storage.Values
import FarmLedger.Window

namespace FarmLedger

open FarmLedger.Number FarmLedger.Time

/-! ## Samples cut into windows -/

/-- A sample and when it was taken. -/
structure Observation where
  moment : Moment
  value : Float

/-- The sample comes after the end of the window that another one began. -/
def Observation.isAfter (sample : Observation) (length : Duration) (first : Observation) : Bool :=
  first.moment.micros + length.micros < (sample.moment.micros : Int)

/-- The windows of some samples, if one is open with its first sample and others inside. -/
def cutFrom (length : Duration) (first : Observation) (inside : List Observation) :
    List Observation → List (List Observation)
  | [] => [first :: inside]
  | sample :: rest =>
    if sample.isAfter length first then (first :: inside) :: cutFrom length sample [] rest
    else cutFrom length first (inside ++ [sample]) rest

/-- The samples cut into windows, each from its first sample to the last one before the first
sample that comes after its end. -/
def windowsOf (length : Duration) : List Observation → List (List Observation)
  | [] => []
  | first :: rest => cutFrom length first [] rest

section Cut

variable {length : Duration} {first last sample : Observation} {inside during : List Observation}
  {earlier : List (List Observation)} {rest history : List Observation}

theorem cutFrom_ne_nil : cutFrom length first inside rest ≠ [] := by
  induction rest generalizing first inside with
  | nil => exact List.cons_ne_nil _ _
  | cons sample rest ih =>
    rw [cutFrom]
    split
    · exact List.cons_ne_nil _ _
    · exact ih

theorem cutFrom_snoc (cut : cutFrom length first inside rest = earlier ++ [last :: during])
    (sample : Observation) :
    cutFrom length first inside (rest ++ [sample]) =
      if sample.isAfter length last then earlier ++ [last :: during] ++ [[sample]]
      else earlier ++ [last :: (during ++ [sample])] := by
  induction rest generalizing first inside earlier with
  | nil =>
    have only : earlier = [] ∧ first = last ∧ inside = during := by
      cases earlier with
      | nil => simpa [cutFrom] using cut
      | cons window others => simp [cutFrom] at cut
    obtain ⟨rfl, rfl, rfl⟩ := only
    simp only [List.nil_append, cutFrom]
    split <;> rfl
  | cons next rest ih =>
    rw [List.cons_append, cutFrom]
    rw [cutFrom] at cut
    by_cases after : next.isAfter length first = true
    · rw [if_pos after] at cut ⊢
      cases earlier with
      | nil =>
        rw [List.nil_append, List.cons.injEq] at cut
        exact absurd cut.2 cutFrom_ne_nil
      | cons window others =>
        rw [List.cons_append, List.cons.injEq] at cut
        rw [ih cut.2, cut.1]
        split <;> rfl
    · rw [if_neg after] at cut ⊢
      exact ih cut

/-- One more sample begins a window, or joins the last one. -/
theorem windowsOf_snoc (cut : windowsOf length history = earlier ++ [last :: during])
    (sample : Observation) :
    windowsOf length (history ++ [sample]) =
      if sample.isAfter length last then earlier ++ [last :: during] ++ [[sample]]
      else earlier ++ [last :: (during ++ [sample])] := by
  cases history with
  | nil => simp [windowsOf] at cut
  | cons first rest => exact cutFrom_snoc cut sample

end Cut

/-! ## Means -/

/-- The average of some samples: the sample itself if there is one, and else their mean. -/
def IsAverage : List Float → Float → Prop
  | [sample], average => (average == sample) = true
  | samples, average => ∃ m, mean samples = .ok m ∧ (average == m) = true

/-- The average of the last of some windows, or zero if there is none. -/
def IsLastAverage (earlier : List (List Observation)) (average : Float) : Prop :=
  match earlier.getLast? with
  | none => (average == 0.0) = true
  | some window => IsAverage (window.map Observation.value) average

section Averages

variable {samples : List Float} {a b m : Float} {earlier : List (List Observation)}

theorem IsAverage.of_beq (average : IsAverage samples a) (same : (b == a) = true) :
    IsAverage samples b := by
  unfold IsAverage at average ⊢
  split at average
  · exact beq_trans same average
  · obtain ⟨m, exists_, equal⟩ := average
    exact ⟨m, exists_, beq_trans same equal⟩

theorem isAverage_of_mean (many : 1 < samples.length) (exists_ : mean samples = .ok m)
    (equal : (a == m) = true) : IsAverage samples a := by
  unfold IsAverage
  split
  · next one => exact absurd many (by simp)
  · exact ⟨m, exists_, equal⟩

/-- The mean that a further sample brings averages the samples, also where it equals the average
that stands and is not written. -/
theorem isAverage_taken (many : 1 < samples.length) (taken : mean samples = .ok m)
    (kept : (a == if m == b then b else m) = true) : IsAverage samples a := by
  refine isAverage_of_mean many taken ?_
  split at kept
  · next equal => exact beq_trans kept (beq_symm equal)
  · exact kept

theorem isAverage_refreshed {joined : List Float} (many : 1 < samples.length)
    (same : sameReals joined samples = true) (taken : mean joined = .ok m)
    (kept : (a == if m == b then b else m) = true) : IsAverage samples a := by
  rw [mean_congr same] at taken
  exact isAverage_taken many taken kept

/-- Samples in two orders have equal averages, where they have some. -/
theorem IsAverage.beq_of_perm {other : List Float} (average : IsAverage samples a)
    (average' : IsAverage other b) (orders : samples.Perm other) : (a == b) = true := by
  unfold IsAverage at average average'
  split at average
  · next sample =>
    obtain rfl := List.perm_singleton.1 orders.symm
    exact beq_trans average (beq_symm average')
  · next many =>
    obtain ⟨m, taken, equal⟩ := average
    split at average'
    · next sample => exact absurd (List.perm_singleton.1 orders) (many sample)
    · obtain ⟨n, taken', equal'⟩ := average'
      obtain rfl := mean_perm orders taken taken'
      exact beq_trans equal (beq_symm equal')

theorem IsLastAverage.of_beq (average : IsLastAverage earlier a) (same : (b == a) = true) :
    IsLastAverage earlier b := by
  unfold IsLastAverage at average ⊢
  split at average
  · exact beq_trans same average
  · exact average.of_beq same

end Averages

/-! ## Operations that go through -/

namespace Window

variable {w : Window} {now : Timestamp} {sample : Float} {length : Duration}

theorem micros_finishOf {start finish : Moment} (h : finishOf start length = .ok finish) :
    (finish.micros : Int) = start.micros + length.micros :=
  Moment.micros_add (ok_of_mapError h)

theorem begin_ok (h : begin now length (some sample) = .ok w) :
    ∃ start finish, utc now = .ok start ∧ finishOf start length = .ok finish ∧
      w = ⟨start, finish, [sample], sample, 0.0⟩ := by
  obtain ⟨start, read, h⟩ := ok_of_bind h
  obtain ⟨finish, ends, h⟩ := ok_of_bind h
  cases h
  exact ⟨start, finish, read, ends, rfl⟩

theorem begin_ordered (forward : 0 ≤ length.micros)
    (begun : begin now length (some sample) = .ok w) : w.start ≤ w.finish := by
  obtain ⟨start, finish, _, ends, rfl⟩ := begin_ok begun
  have sum := micros_finishOf ends
  show start.micros ≤ finish.micros
  omega

theorem isExpired_of_utc {moment : Moment} (read : utc now = .ok moment) :
    w.isExpired now = .ok (decide (w.finish < moment)) := by
  unfold isExpired
  rw [read]
  rfl

theorem refresh_ok {average : Float} (some_ : w.samples ≠ [])
    (h : w.refresh.result = .ok average) :
    ∃ m, mean w.samples = .ok m ∧
      w.refresh.window = { w with average := if m == w.average then w.average else m } := by
  unfold refresh at h ⊢
  have notEmpty : ¬ w.samples.isEmpty = true := fun empty => some_ (List.isEmpty_iff.1 empty)
  rw [if_neg notEmpty] at h ⊢
  cases taken : mean w.samples with
  | error _ => rw [taken] at h; cases h
  | ok m =>
    refine ⟨m, rfl, ?_⟩
    simp only
    split <;> rfl

/-- **A sample that goes through closes the window, or joins it.** -/
theorem observeOrRollOver_ok {update : Update}
    (h : (w.observeOrRollOver now sample length).result = .ok update) :
    ∃ moment, utc now = .ok moment ∧
      ((w.finish < moment ∧ ∃ finish, finishOf moment length = .ok finish ∧
          (w.observeOrRollOver now sample length).window =
            ⟨moment, finish, [sample], sample, w.average⟩) ∨
        (¬ w.finish < moment ∧ ∃ m, mean (w.samples ++ [sample]) = .ok m ∧
          (w.observeOrRollOver now sample length).window =
            { w with
              samples := w.samples ++ [sample]
              average := if m == w.average then w.average else m })) := by
  unfold observeOrRollOver at h ⊢
  cases read : utc now with
  | error failure =>
    have unread : w.isExpired now = .error failure := by
      unfold isExpired
      rw [read]
      rfl
    simp only [unread, observe] at h
    cases h
  | ok moment =>
    refine ⟨moment, rfl, ?_⟩
    by_cases late : w.finish < moment
    · have expired : w.isExpired now = .ok true := by
        rw [isExpired_of_utc read, decide_eq_true late]
      simp only [expired, rollOver, read] at h ⊢
      cases ends : finishOf moment length with
      | error _ => rw [ends] at h; cases h
      | ok finish => exact .inl ⟨late, finish, rfl, rfl⟩
    · have open_ : w.isExpired now = .ok false := by
        rw [isExpired_of_utc read, decide_eq_false late]
      simp only [open_, observe] at h ⊢
      obtain ⟨average, refreshed, _⟩ := ok_of_map h
      obtain ⟨m, taken, window⟩ := refresh_ok (by simp) refreshed
      exact .inr ⟨late, m, taken, window⟩

/-- A sample that comes before the end of the window joins it. -/
theorem observeOrRollOver_joins {moment : Moment} {m : Float} (read : utc now = .ok moment)
    (onTime : ¬ w.finish < moment) (taken : mean (w.samples ++ [sample]) = .ok m) :
    ∃ update, (w.observeOrRollOver now sample length).result = .ok update ∧
      (w.observeOrRollOver now sample length).window =
        { w with
          samples := w.samples ++ [sample]
          average := if m == w.average then w.average else m } := by
  have open_ : w.isExpired now = .ok false := by
    rw [isExpired_of_utc read, decide_eq_false onTime]
  have some_ : (w.samples ++ [sample]).isEmpty = false := by simp
  refine ⟨⟨m, false⟩, ?_, ?_⟩
  · simp only [observeOrRollOver, open_, observe, refresh, some_, taken]
    rfl
  · simp only [observeOrRollOver, open_, observe, refresh, some_, taken, Bool.false_eq_true,
      if_false]
    split <;> rfl

/-- Whether or not there is a mean, the sample is in the window. -/
theorem observeOrRollOver_samples {moment : Moment} (read : utc now = .ok moment)
    (onTime : ¬ w.finish < moment) :
    (w.observeOrRollOver now sample length).window.samples = w.samples ++ [sample] := by
  have open_ : w.isExpired now = .ok false := by
    rw [isExpired_of_utc read, decide_eq_false onTime]
  have some_ : (w.samples ++ [sample]).isEmpty = false := by simp
  simp only [observeOrRollOver, open_, observe, refresh, some_, Bool.false_eq_true, if_false]
  cases mean (w.samples ++ [sample]) with
  | error _ => rfl
  | ok m =>
    simp only
    split <;> rfl

/-- A sample that comes after the end of the window begins the next one. -/
theorem observeOrRollOver_rolls {moment finish : Moment} (read : utc now = .ok moment)
    (late : w.finish < moment) (ends : finishOf moment length = .ok finish) :
    ∃ update, (w.observeOrRollOver now sample length).result = .ok update ∧
      (w.observeOrRollOver now sample length).window =
        ⟨moment, finish, [sample], sample, w.average⟩ := by
  have expired : w.isExpired now = .ok true := by
    rw [isExpired_of_utc read, decide_eq_true late]
  refine ⟨⟨sample, true⟩, ?_, ?_⟩
  · simp only [observeOrRollOver, expired, rollOver, read, ends]
    rfl
  · simp only [observeOrRollOver, expired, rollOver, read, ends]

/-! ## Windows as rows keep them -/

/-- A window as a row keeps it: moments as they are, samples and means by value. -/
structure Keeps (kept given : Window) : Prop where
  start : kept.start = given.start
  finish : kept.finish = given.finish
  samples : kept.samples = given.samples ∨ sameReals kept.samples given.samples = true
  average : (kept.average == given.average) = true
  lastAverage : (kept.lastAverage == given.lastAverage) = true

/-- Columns that were handed a window hold one that keeps it. -/
theorem Keeps.of_holds {start finish : Moment} {samples : Option (List Float)}
    {average lastAverage : Float} {given : Window}
    (starts : Kind.moment.Holds start (some (.ofUtc given.start)))
    (finishes : Kind.moment.Holds finish (some (.ofUtc given.finish)))
    (lists : Kind.reals.Holds samples (some given.samples))
    (averages : Kind.real.Holds average (some given.average))
    (lastAverages : Kind.real.Holds lastAverage (some given.lastAverage)) :
    ∃ items, samples = some items ∧
      Keeps ⟨start, finish, items, average, lastAverage⟩ given := by
  obtain ⟨items, stored, same⟩ := lists.reals
  exact ⟨items, stored, starts.moment, finishes.moment, same, averages.real, lastAverages.real⟩

theorem Keeps.sameReals {kept given : Window} {values : List Float} (keeps : kept.Keeps given)
    (same : sameReals given.samples values = true) : sameReals kept.samples values = true := by
  rcases keeps.samples with equal | alike
  · rwa [equal]
  · exact sameReals_trans alike same

/-- The window holds the samples since `first`, and the average of the window before. -/
structure Shows (length : Duration) (earlier : List (List Observation)) (first : Observation)
    (inside : List Observation) (w : Window) : Prop where
  start : w.start = first.moment
  finish : (w.finish.micros : Int) = first.moment.micros + length.micros
  samples : Number.sameReals w.samples ((first :: inside).map Observation.value) = true
  average : IsAverage ((first :: inside).map Observation.value) w.average
  lastAverage : IsLastAverage earlier w.lastAverage

/-- The window holds the last window of some samples. -/
def Retells (length : Duration) (history : List Observation) (w : Window) : Prop :=
  ∃ earlier first inside,
    windowsOf length history = earlier ++ [first :: inside] ∧ w.Shows length earlier first inside

/-- **The first sample begins a window that retells it.** -/
theorem Retells.begin {given kept : Window} {moment : Moment} (read : utc now = .ok moment)
    (begun : Window.begin now length (some sample) = .ok given) (keeps : kept.Keeps given) :
    kept.Retells length [⟨moment, sample⟩] := by
  obtain ⟨start, finish, read', ends, rfl⟩ := begin_ok begun
  obtain rfl : start = moment := Except.ok.inj (read'.symm.trans read)
  have number : sample.isNaN = false := not_isNaN_of_beq (beq_symm keeps.average)
  refine ⟨[], ⟨start, sample⟩, [], rfl, ?_⟩
  exact {
    start := keeps.start
    finish := by rw [keeps.finish, micros_finishOf ends]
    samples := keeps.sameReals (sameReals_self (by simpa using number))
    average := keeps.average
    lastAverage := keeps.lastAverage }

/-- **A sample that goes through is retold beside the ones before it.** -/
theorem Retells.next {kept : Window} {moment : Moment} {history : List Observation}
    {update : Update} (retells : w.Retells length history) (read : utc now = .ok moment)
    (observed : (w.observeOrRollOver now sample length).result = .ok update)
    (keeps : kept.Keeps (w.observeOrRollOver now sample length).window)
    (number : sample.isNaN = false) :
    kept.Retells length (history ++ [⟨moment, sample⟩]) := by
  obtain ⟨earlier, first, inside, cut, shows⟩ := retells
  obtain ⟨moment', read', cases_⟩ := observeOrRollOver_ok observed
  obtain rfl : moment' = moment := Except.ok.inj (read'.symm.trans read)
  have self : Number.sameReals [sample] [sample] = true := sameReals_self (by simpa using number)
  have finish := shows.finish
  rcases cases_ with ⟨late, finish', ends, window⟩ | ⟨onTime, m, taken, window⟩
  · have after : Observation.isAfter ⟨moment', sample⟩ length first = true := by
      have less : w.finish.micros < moment'.micros := late
      simp only [Observation.isAfter, decide_eq_true_eq]
      omega
    rw [window] at keeps
    refine ⟨earlier ++ [first :: inside], ⟨moment', sample⟩, [], ?_, ?_⟩
    · rw [windowsOf_snoc cut, if_pos after]
    · exact {
        start := keeps.start
        finish := by rw [keeps.finish, micros_finishOf ends]
        samples := keeps.sameReals self
        average := keeps.average
        lastAverage := by
          unfold IsLastAverage
          rw [List.getLast?_concat]
          exact shows.average.of_beq keeps.lastAverage }
  · have before : ¬ Observation.isAfter ⟨moment', sample⟩ length first = true := by
      have notLess : ¬ w.finish.micros < moment'.micros := onTime
      simp only [Observation.isAfter, decide_eq_true_eq]
      omega
    rw [window] at keeps
    have samples : Number.sameReals (w.samples ++ [sample])
        ((first :: (inside ++ [⟨moment', sample⟩])).map Observation.value) = true := by
      have joined := sameReals_append shows.samples self
      simpa using joined
    refine ⟨earlier, first, inside ++ [⟨moment', sample⟩], ?_, ?_⟩
    · rw [windowsOf_snoc cut, if_neg before]
    · exact {
        start := keeps.start.trans shows.start
        finish := by rw [keeps.finish, finish]
        samples := keeps.sameReals samples
        average := isAverage_refreshed (by simp) samples taken keeps.average
        lastAverage := shows.lastAverage.of_beq keeps.lastAverage }

end Window

end FarmLedger
