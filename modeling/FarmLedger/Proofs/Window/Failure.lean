/-
# FarmLedger.Proofs.Window.Failure — what a failed operation leaves of a window

A window is handled with a sample in one of three ways, and which path that takes depends only on
whether the window is over (`Handling.path`). Each path has one point at which it can fail, and
`Handling.Fails` says which failure that is and what has happened to the window by then:

* a clock outside the calendar, and a window that is over, are found out before anything changes;
* a sample that has no mean with the samples before it has joined them already;
* a next window that ends outside the calendar has already taken its start, and the average of the
  window before it.

`failed_handling` says that a failure is always one of these, and names the failures that leave the
window as it was. A sample that joined without a mean is more than untidy: the sum does not recover
from it (`mean_error_append`), so the window refuses every sample until it is over (`run_spoiled`).
-/
import FarmLedger.Proofs.Window.History

namespace FarmLedger

open FarmLedger.Number FarmLedger.Time

/-! ## Sums that fail go on failing -/

namespace Number

theorem staysFinite_append {expansion xs : List Float} (ys : List Float)
    (leaves : staysFinite expansion xs = false) : staysFinite expansion (xs ++ ys) = false := by
  induction xs generalizing expansion with
  | nil => cases leaves
  | cons x xs ih =>
    simp only [List.cons_append, staysFinite] at leaves ⊢
    split
    · next finite =>
      rw [if_pos finite] at leaves
      rcases Bool.and_eq_false_iff.1 leaves with here | later
      · rw [here, Bool.false_and]
      · rw [ih later, Bool.and_false]
    · next special =>
      rw [if_neg special] at leaves
      exact ih leaves

theorem sum_error_iff {xs : List Float} :
    (∃ fault, sum xs = .error fault) ↔
      staysFinite [] xs = false ∨
        (xs.contains infinity && xs.contains (-infinity)) = true := by
  unfold sum
  cases staysFinite [] xs with
  | false => simp
  | true =>
    cases opposed : xs.contains infinity && xs.contains (-infinity) with
    | true => simp
    | false =>
      simp only [Bool.not_true, Bool.false_eq_true, if_false]
      constructor
      · rintro ⟨fault, failed⟩
        split at failed
        · cases failed
        · split at failed
          · cases failed
          · split at failed <;> cases failed
      · rintro (leaves | opposed)
        · cases leaves
        · cases opposed

theorem mean_error_iff {xs : List Float} {fault : SumFault} :
    mean xs = .error fault ↔ sum xs = .error fault := by
  unfold mean
  cases sum xs <;> simp [Except.map]

/-- **A sum that cannot be taken cannot be taken with more samples either.** -/
theorem mean_error_append {xs : List Float} {fault : SumFault} (ys : List Float)
    (failed : mean xs = .error fault) : ∃ later, mean (xs ++ ys) = .error later := by
  have parts := sum_error_iff.1 ⟨fault, mean_error_iff.1 failed⟩
  obtain ⟨later, sums⟩ : ∃ later, sum (xs ++ ys) = .error later := by
    refine sum_error_iff.2 (parts.imp (staysFinite_append ys) fun opposed => ?_)
    obtain ⟨positive, negative⟩ := Bool.and_eq_true_iff.1 opposed
    simp only [List.contains_eq_any_beq, List.any_append] at positive negative ⊢
    rw [positive, negative]
    rfl
  exact ⟨later, mean_error_iff.2 sums⟩

end Number

namespace Window

/-! ## Ways to handle a sample -/

/-- Whether a step went through, and the window that it leaves. -/
def Step.outcome {α : Type} (step : Step α) : Step Unit :=
  ⟨step.result.map fun _ => (), step.window⟩

theorem Step.outcome_map {α β : Type} (f : α → β) (step : Step α) :
    Step.outcome ⟨step.result.map f, step.window⟩ = step.outcome := by
  unfold Step.outcome
  cases step.result <;> rfl

/-- What is done to a window with a sample. -/
inductive Handling
  | observe
  | rollOver (length : Duration)
  | observeOrRollOver (length : Duration)

inductive Path
  | refused
  | joins
  | begins (length : Duration)

namespace Handling

/-- The step that handles a sample. -/
def perform (handling : Handling) (w : Window) (now : Timestamp) (sample : Float) : Step Unit :=
  match handling with
  | observe => (w.observe now sample).outcome
  | rollOver length => (w.rollOver now sample length).outcome
  | observeOrRollOver length => (w.observeOrRollOver now sample length).outcome

/-- Where a sample goes if it comes while the window is over, or is not. -/
def path : Handling → (late : Bool) → Path
  | observe, true => .refused
  | observe, false => .joins
  | rollOver length, _ => .begins length
  | observeOrRollOver length, true => .begins length
  | observeOrRollOver _, false => .joins

/-- Where a window that is at hand sends a sample at a moment. -/
def pathOf (handling : Handling) (w : Window) (moment : Moment) : Path :=
  handling.path (decide (w.finish < moment))

/-- How a sample fails to be handled, and the window that is left then. -/
inductive Fails (handling : Handling) (w : Window) (now : Timestamp) (sample : Float) :
    Failure → Window → Prop
  | clock {failure : Failure} (unread : utc now = .error failure) :
      Fails handling w now sample failure w
  | late {moment : Moment} (read : utc now = .ok moment)
      (refused : handling.pathOf w moment = .refused) :
      Fails handling w now sample (.refused (.periodFinished "moving_average" none)) w
  | unsummed {moment : Moment} {fault : SumFault} (read : utc now = .ok moment)
      (joins : handling.pathOf w moment = .joins)
      (unsummed : mean (w.samples ++ [sample]) = .error fault) :
      Fails handling w now sample (.sum fault) { w with samples := w.samples ++ [sample] }
  | unended {moment : Moment} {length : Duration} {failure : Failure} (read : utc now = .ok moment)
      (begins : handling.pathOf w moment = .begins length)
      (unended : finishOf moment length = .error failure) :
      Fails handling w now sample failure { w with start := moment, lastAverage := w.average }

end Handling

section Paths

variable {handling : Handling} {w left : Window} {now : Timestamp} {sample : Float}
  {length : Duration} {moment : Moment} {failure : Failure}

theorem refresh_fails_iff (some_ : w.samples ≠ []) :
    w.refresh.outcome = ⟨.error failure, left⟩ ↔
      ∃ fault, mean w.samples = .error fault ∧ failure = .sum fault ∧ left = w := by
  have notEmpty : ¬ w.samples.isEmpty = true := fun empty => some_ (List.isEmpty_iff.1 empty)
  unfold refresh Step.outcome
  rw [if_neg notEmpty]
  cases mean w.samples with
  | error fault =>
    simp only [Except.map, Step.mk.injEq, Except.error.injEq, eq_comm, exists_eq_left']
  | ok m => simp [Except.map]

theorem rollOver_fails_iff (read : utc now = .ok moment) :
    (w.rollOver now sample length).outcome = ⟨.error failure, left⟩ ↔
      finishOf moment length = .error failure ∧
        left = { w with start := moment, lastAverage := w.average } := by
  unfold rollOver Step.outcome
  simp only [read]
  cases finishOf moment length with
  | error other => simp only [Except.map, Step.mk.injEq, Except.error.injEq, eq_comm]
  | ok finish => simp [Except.map]

/-- A handling is its path. -/
theorem perform_eq (read : utc now = .ok moment) :
    handling.perform w now sample =
      match handling.pathOf w moment with
      | .refused => ⟨.error (.refused (.periodFinished "moving_average" none)), w⟩
      | .joins => (refresh { w with samples := w.samples ++ [sample] }).outcome
      | .begins length => (w.rollOver now sample length).outcome := by
  have expiry : w.isExpired now = .ok (decide (w.finish < moment)) := isExpired_of_utc read
  unfold Handling.pathOf
  cases handling with
  | observe =>
    simp only [Handling.perform, observe, expiry]
    cases decide (w.finish < moment) <;> rfl
  | rollOver length => rfl
  | observeOrRollOver length =>
    cases late : decide (w.finish < moment) with
    | true =>
      rw [late] at expiry
      simp only [Handling.perform, observeOrRollOver, expiry, Step.outcome_map]
      rfl
    | false =>
      rw [late] at expiry
      simp only [Handling.perform, observeOrRollOver, expiry, Step.outcome_map, observe]
      rfl

theorem perform_unread (unread : utc now = .error failure) :
    handling.perform w now sample = ⟨.error failure, w⟩ := by
  have expiry : w.isExpired now = .error failure := by
    unfold isExpired
    rw [unread]
    rfl
  cases handling with
  | observe =>
    simp only [Handling.perform, observe, expiry]
    rfl
  | rollOver length =>
    simp only [Handling.perform, rollOver, unread]
    rfl
  | observeOrRollOver length =>
    simp only [Handling.perform, observeOrRollOver, observe, expiry]
    rfl

theorem perform_fails_iff :
    handling.perform w now sample = ⟨.error failure, left⟩ ↔
      handling.Fails w now sample failure left := by
  cases read : utc now with
  | error fault =>
    rw [perform_unread read]
    constructor
    · intro h
      cases h
      exact .clock read
    · intro fails
      cases fails with
      | clock unread => rw [Except.error.inj (read.symm.trans unread)]
      | late read' => cases read.symm.trans read'
      | unsummed read' => cases read.symm.trans read'
      | unended read' => cases read.symm.trans read'
  | ok moment =>
    rw [perform_eq read]
    constructor
    · intro h
      cases taken : handling.pathOf w moment with
      | refused =>
        rw [taken] at h
        cases h
        exact .late read taken
      | joins =>
        rw [taken] at h
        obtain ⟨fault, unsummed, rfl, rfl⟩ := (refresh_fails_iff (by simp)).1 h
        exact .unsummed read taken unsummed
      | begins length =>
        rw [taken] at h
        obtain ⟨unended, rfl⟩ := (rollOver_fails_iff read).1 h
        exact .unended read taken unended
    · intro fails
      cases fails with
      | clock unread => cases read.symm.trans unread
      | late read' refused =>
        cases read.symm.trans read'
        rw [refused]
      | unsummed read' joins unsummed =>
        cases read.symm.trans read'
        rw [joins]
        exact (refresh_fails_iff (by simp)).2 ⟨_, unsummed, rfl, rfl⟩
      | unended read' begins unended =>
        cases read.symm.trans read'
        rw [begins]
        exact (rollOver_fails_iff read).2 ⟨unended, rfl⟩

end Paths

/-! ## What a failure leaves -/

/-- **A failure leaves what was done before it.** The window is as it was exactly if the clock is
outside the calendar, if the sample was refused because the window is over, or if the next window
would have the same start and the same last average. A sample that has no mean with the others has
joined them, and a next window that has no end has taken its start and the last average. -/
theorem failed_handling (handling : Handling) (w : Window) (now : Timestamp) (sample : Float)
    (failure : Failure) :
    (∀ left, handling.perform w now sample = ⟨.error failure, left⟩ ↔
        handling.Fails w now sample failure left) ∧
      (handling.perform w now sample = ⟨.error failure, w⟩ ↔
        utc now = .error failure ∨
          ∃ moment, utc now = .ok moment ∧
            (handling.pathOf w moment = .refused ∧
                failure = .refused (.periodFinished "moving_average" none) ∨
              ∃ length, handling.pathOf w moment = .begins length ∧
                finishOf moment length = .error failure ∧
                w.start = moment ∧ w.lastAverage = w.average)) := by
  refine ⟨fun left => perform_fails_iff, perform_fails_iff.trans ⟨fun fails => ?_, ?_⟩⟩
  · obtain ⟨left, kept, fails⟩ : ∃ left, left = w ∧ handling.Fails w now sample failure left :=
      ⟨w, rfl, fails⟩
    cases fails with
    | clock unread => exact .inl unread
    | late read refused => exact .inr ⟨_, read, .inl ⟨refused, rfl⟩⟩
    | unsummed read joins unsummed =>
      have joined := congrArg (fun left => left.samples.length) kept
      simp at joined
    | unended read begins unended =>
      have starts := congrArg Window.start kept
      have lasts := congrArg Window.lastAverage kept
      exact .inr ⟨_, read, .inr ⟨_, begins, unended, starts.symm, lasts.symm⟩⟩
  · rintro (unread | ⟨moment, read, ⟨refused, rfl⟩ | ⟨length, begins, unended, starts, lasts⟩⟩)
    · exact .clock unread
    · exact .late read refused
    · have kept : { w with start := moment, lastAverage := w.average } = w := by
        cases w
        cases starts
        cases lasts
        rfl
      have fails : handling.Fails w now sample failure _ := .unended read begins unended
      rwa [kept] at fails

/-- Two samples that outgrow the doubles together: the second one is refused, and stays in the
window. A window that is to last as long as the calendar: it is refused, and has begun. -/
theorem failures_that_change :
    Handling.observe.perform ⟨.early 0, .early 0, [1e308], 1e308, 0.0⟩ (.ofUtc (.early 0)) 1e308 =
        ⟨.error (.sum .overflow), ⟨.early 0, .early 0, [1e308, 1e308], 1e308, 0.0⟩⟩ ∧
      (Handling.rollOver ⟨daysOfCalendar * microsPerDay⟩).perform
          ⟨.early 0, .early 0, [1.0], 1.0, 0.0⟩ (.ofUtc (.early 1)) 2.0 =
        ⟨.error (.timestamp .outOfCalendar), ⟨.early 1, .early 0, [1.0], 1.0, 1.0⟩⟩ := by
  have unsummed : mean [1e308, 1e308] = .error .overflow := by decide +kernel
  have outside : (Moment.early 1).add ⟨daysOfCalendar * microsPerDay⟩ = .error .outOfCalendar := by
    decide +kernel
  have unended : finishOf (.early 1) ⟨daysOfCalendar * microsPerDay⟩ =
      .error (.timestamp .outOfCalendar) := by
    rw [finishOf, outside]
    rfl
  constructor
  · exact perform_fails_iff.2 (.unsummed rfl rfl unsummed)
  · exact perform_fails_iff.2 (.unended rfl rfl unended)

/-! ## A window that has lost its mean -/

/-- The results of handling some samples, each at its time, and the window after the last. -/
def Handling.run (handling : Handling) :
    Window → List (Timestamp × Float) → List (Except Failure Unit) × Window
  | w, [] => ([], w)
  | w, (now, sample) :: rest =>
    let step := handling.perform w now sample
    let later := handling.run step.window rest
    (step.result :: later.1, later.2)

/-- The samples have no mean. -/
def Spoiled (w : Window) : Prop := ∃ fault, mean w.samples = .error fault

section Spoiled

variable {handling : Handling} {w : Window} {now : Timestamp} {sample : Float} {moment : Moment}

/-- A spoiled window refuses a sample that would join it, and is spoiled with it. -/
theorem perform_spoiled (spoiled : w.Spoiled) (read : utc now = .ok moment)
    (joins : handling.pathOf w moment = .joins) :
    ∃ fault, handling.perform w now sample =
        ⟨.error (.sum fault), { w with samples := w.samples ++ [sample] }⟩ ∧
      Spoiled { w with samples := w.samples ++ [sample] } := by
  obtain ⟨fault, failed⟩ := spoiled
  obtain ⟨later, unsummed⟩ := mean_error_append [sample] failed
  exact ⟨later, perform_fails_iff.2 (.unsummed read joins unsummed), later, unsummed⟩

/-- **A spoiled window refuses all samples until it is over, and keeps every one of them.** -/
theorem run_spoiled {given : List (Timestamp × Float)} (spoiled : w.Spoiled)
    (inside : ∀ item ∈ given, ∃ moment, utc item.1 = .ok moment ∧
      handling.pathOf w moment = .joins) :
    (∀ result ∈ (handling.run w given).1, ∃ fault, result = .error (.sum fault)) ∧
      (handling.run w given).2 = { w with samples := w.samples ++ given.map Prod.snd } := by
  induction given generalizing w with
  | nil => simp [Handling.run]
  | cons item rest ih =>
    obtain ⟨now, sample⟩ := item
    obtain ⟨moment, read, joins⟩ := inside _ List.mem_cons_self
    obtain ⟨fault, performed, spoiled⟩ :=
      @perform_spoiled handling w now sample _ spoiled read joins
    -- the end of the window decides the path, and it stays
    obtain ⟨refused, kept⟩ := ih spoiled fun item among => inside item (.tail _ among)
    simp only [Handling.run, performed, kept, List.append_assoc, List.singleton_append,
      List.map_cons, and_true]
    intro result among
    rcases List.mem_cons.1 among with rfl | among
    · exact ⟨fault, rfl⟩
    · exact refused result among

end Spoiled

end Window

end FarmLedger
