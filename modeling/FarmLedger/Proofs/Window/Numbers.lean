/-
# FarmLedger.Proofs.Window.Numbers — windows of numbers

A row takes figures that are numbers only, so a window has to hold numbers to be written. Rows keep
their means by value, and what equals something is a number (`Keeps.inNumbers`), so the windows of
rows do hold numbers as long as the samples are some (`InNumbers.next`).

A number that goes to such a window leaves one that can be written: the mean is a number if there is
one (`InNumbers.observes`), and the window does not end before it starts (`InNumbers.left`).
-/
import FarmLedger.Proofs.Number.Quotient
import FarmLedger.Proofs.Window.History

namespace FarmLedger

open FarmLedger.Number FarmLedger.Time

/-- All figures of the window are numbers. -/
structure Window.InNumbers (w : Window) : Prop where
  samples : ∀ x ∈ w.samples, x.isNaN = false
  average : w.average.isNaN = false
  lastAverage : w.lastAverage.isNaN = false

namespace Window

variable {w kept given : Window} {now : Timestamp} {sample : Float} {length : Duration}

/-- A row keeps the means by value, so that they are numbers. -/
theorem Keeps.inNumbers (keeps : kept.Keeps given)
    (numbers : ∀ x ∈ given.samples, x.isNaN = false) : kept.InNumbers := by
  refine ⟨?_, not_isNaN_of_beq keeps.average, not_isNaN_of_beq keeps.lastAverage⟩
  rcases keeps.samples with equal | alike
  · rw [equal]
    exact numbers
  · exact numbers_of_sameReals alike

theorem InNumbers.next {update : Update} (numbers : w.InNumbers) (number : sample.isNaN = false)
    (observed : (w.observeOrRollOver now sample length).result = .ok update) :
    ∀ x ∈ (w.observeOrRollOver now sample length).window.samples, x.isNaN = false := by
  have alone : ∀ x ∈ [sample], x.isNaN = false := List.forall_mem_singleton.2 number
  obtain ⟨_, _, ⟨_, _, _, rolled⟩ | ⟨_, _, _, joined⟩⟩ := observeOrRollOver_ok observed
  · rw [rolled]
    exact alone
  · rw [joined]
    exact List.forall_mem_append.2 ⟨numbers.samples, alone⟩

/-- What is left of a window that took a sample has a number for its last average, and does not end
before it starts. -/
theorem InNumbers.left {update : Update} (numbers : w.InNumbers) (ordered : w.start ≤ w.finish)
    (forward : 0 ≤ length.micros)
    (observed : (w.observeOrRollOver now sample length).result = .ok update) :
    (w.observeOrRollOver now sample length).window.lastAverage.isNaN = false ∧
      (w.observeOrRollOver now sample length).window.start ≤
        (w.observeOrRollOver now sample length).window.finish := by
  obtain ⟨start, _, ⟨_, finish, ends, rolled⟩ | ⟨_, _, _, joined⟩⟩ := observeOrRollOver_ok observed
  · rw [rolled]
    have later : start.micros ≤ finish.micros := by
      have sum := micros_finishOf ends
      omega
    exact ⟨numbers.average, later⟩
  · rw [joined]
    exact ⟨numbers.lastAverage, ordered⟩

/-- **A number goes to a window of numbers if there is a mean then**, and the window can be written
as it is afterwards. -/
theorem InNumbers.observes {start finish : Moment} (numbers : w.InNumbers)
    (ordered : w.start ≤ w.finish) (number : sample.isNaN = false) (forward : 0 ≤ length.micros)
    (read : utc now = .ok start) (ends : finishOf start length = .ok finish)
    (has : HasMean (w.observeOrRollOver now sample length).window.samples) :
    ∃ update next, (w.observeOrRollOver now sample length).result = .ok update ∧
      (w.observeOrRollOver now sample length).window = next ∧
      next.average.isNaN = false ∧ next.lastAverage.isNaN = false ∧ next.start ≤ next.finish := by
  by_cases late : w.finish < start
  · obtain ⟨update, observed, rolled⟩ := observeOrRollOver_rolls read late ends
    obtain ⟨lastNumber, ordered⟩ := numbers.left ordered forward observed
    rw [rolled] at lastNumber ordered
    exact ⟨update, _, observed, rolled, number, lastNumber, ordered⟩
  · rw [observeOrRollOver_samples read late] at has
    obtain ⟨m, taken⟩ := has.taken
    obtain ⟨update, observed, joined⟩ :=
      @observeOrRollOver_joins _ _ _ length _ _ read late taken
    obtain ⟨lastNumber, ordered⟩ := numbers.left ordered forward observed
    rw [joined] at lastNumber ordered
    have all : ∀ x ∈ w.samples ++ [sample], x.isNaN = false :=
      List.forall_mem_append.2 ⟨numbers.samples, List.forall_mem_singleton.2 number⟩
    refine ⟨update, _, observed, joined, ?_, lastNumber, ordered⟩
    show (if m == w.average then w.average else m).isNaN = false
    split
    · exact numbers.average
    · exact not_isNaN_mean (by simp) all has taken

end Window

end FarmLedger
