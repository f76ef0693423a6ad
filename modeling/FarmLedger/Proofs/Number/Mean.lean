/-
# FarmLedger.Proofs.Number.Mean — the mean sees neither the sign of a zero nor the order

Samples are kept in a list as they came, but a window that begins with a zero keeps the zero that
it began with before. So the samples of a window and the samples that were handed over are the same
by value only. `mean_congr` says that this makes no difference to their mean, not even in the sign
of a zero: the exact sum counts units, and the expansion that is carried along stays alike part by
part (`addToExpansion_alike`).

Neither does the order make a difference, as the exact sum has none (`mean_perm`). Whether there is
a mean does depend on it: the expansion may outgrow the doubles in one order only.
-/
import FarmLedger.Number.Mean
import FarmLedger.Proofs.Except
import FarmLedger.Proofs.Number.Alike

namespace FarmLedger.Number

/-- Lists that are alike position by position. -/
abbrev AlikeLists : List Float → List Float → Prop := List.Forall₂ Alike

variable {x y : Float} {xs ys : List Float}

theorem alikeLists_of_sameReals (h : sameReals xs ys = true) : AlikeLists xs ys :=
  (sameReals_iff.1 h).imp fun _ _ => alike_of_beq

/-! ## The expansion -/

theorem twoSum_alike {large small large' small' : Float} (h : Alike large large')
    (k : Alike small small') :
    Alike (twoSum large small).1 (twoSum large' small').1 ∧
      Alike (twoSum large small).2 (twoSum large' small').2 := by
  have high := h.add k
  exact ⟨high, k.sub (high.sub h)⟩

theorem addToExpansion_alike (h : Alike x y) (k : AlikeLists xs ys) :
    AlikeLists (addToExpansion x xs) (addToExpansion y ys) := by
  induction k generalizing x y with
  | nil =>
    simp only [addToExpansion, h.beq_eq (.refl 0.0)]
    split
    · exact .nil
    · exact .cons h .nil
  | @cons part part' parts parts' first rest ih =>
    have order : x.abs < part.abs ↔ y.abs < part'.abs := by
      rw [h.abs_eq, first.abs_eq]
    have pair : Alike (if x.abs < part.abs then twoSum part x else twoSum x part).1
          (if y.abs < part'.abs then twoSum part' y else twoSum y part').1 ∧
        Alike (if x.abs < part.abs then twoSum part x else twoSum x part).2
          (if y.abs < part'.abs then twoSum part' y else twoSum y part').2 := by
      by_cases less : x.abs < part.abs
      · rw [if_pos less, if_pos (order.1 less)]
        exact twoSum_alike first h
      · rw [if_neg less, if_neg (mt order.2 less)]
        exact twoSum_alike h first
    simp only [addToExpansion]
    generalize (if x.abs < part.abs then twoSum part x else twoSum x part) = sum at pair
    generalize (if y.abs < part'.abs then twoSum part' y else twoSum y part') = sum' at pair
    obtain ⟨high, low⟩ := sum
    obtain ⟨high', low'⟩ := sum'
    simp only [pair.2.beq_eq (.refl 0.0)]
    split
    · exact ih pair.1
    · exact .cons pair.2 (ih pair.1)

theorem all_isFinite_alike (h : AlikeLists xs ys) :
    xs.all Float.isFinite = ys.all Float.isFinite := by
  induction h with
  | nil => rfl
  | cons first _ ih => simp only [List.all_cons, first.isFinite_eq, ih]

theorem staysFinite_alike {parts parts' : List Float} (h : AlikeLists parts parts')
    (k : AlikeLists xs ys) : staysFinite parts xs = staysFinite parts' ys := by
  induction k generalizing parts parts' with
  | nil => rfl
  | cons first _ ih =>
    have next := addToExpansion_alike first h
    simp only [staysFinite, first.isFinite_eq, all_isFinite_alike next, ih next, ih .nil]

/-! ## The sum and the mean -/

theorem contains_alike (z : Float) (h : AlikeLists xs ys) : xs.contains z = ys.contains z := by
  induction h with
  | nil => rfl
  | cons first _ ih => simp only [List.contains_cons, (Alike.refl z).beq_eq first, ih]

theorem any_isNaN_alike (h : AlikeLists xs ys) : xs.any Float.isNaN = ys.any Float.isNaN := by
  induction h with
  | nil => rfl
  | cons first _ ih => simp only [List.any_cons, first.isNaN_eq, ih]

theorem exactUnits_alike (h : AlikeLists xs ys) : exactUnits xs = exactUnits ys := by
  have counts : xs.map units = ys.map units := by
    induction h with
    | nil => rfl
    | cons first _ ih => rw [List.map_cons, List.map_cons, first.units_eq, ih]
  unfold exactUnits
  rw [counts]

/-- **Samples that are the same by value have the same mean.** -/
theorem mean_congr (h : sameReals xs ys = true) : mean xs = mean ys := by
  have alike := alikeLists_of_sameReals h
  unfold mean sum
  rw [staysFinite_alike .nil alike, contains_alike _ alike, contains_alike _ alike,
    any_isNaN_alike alike, exactUnits_alike alike, sameReals_length h]

/-! ## The order -/

theorem exactUnits_perm (h : xs.Perm ys) : exactUnits xs = exactUnits ys :=
  (h.map units).foldl_eq 0

/-- The sum of doubles that have one: special if one of them is, and else the exact sum. -/
theorem sum_ok {total : Float} (summed : sum xs = .ok total) :
    total = if xs.any Float.isNaN then notANumber else if xs.contains infinity then infinity
      else if xs.contains (-infinity) then -infinity else ofUnits (exactUnits xs) := by
  unfold sum at summed
  split at summed
  · cases summed
  · split at summed
    · cases summed
    · repeat' split at summed
      all_goals
        cases summed
        simp [*]

theorem sum_perm {total other : Float} (h : xs.Perm ys) (first : sum xs = .ok total)
    (second : sum ys = .ok other) : total = other := by
  rw [sum_ok first, sum_ok second, h.any_eq, h.contains_eq, h.contains_eq, exactUnits_perm h]

/-- **The mean of some samples is that of any order of them**, where both can be taken. -/
theorem mean_perm {m n : Float} (h : xs.Perm ys) (first : mean xs = .ok m)
    (second : mean ys = .ok n) : m = n := by
  obtain ⟨total, summed, rfl⟩ := ok_of_map first
  obtain ⟨other, summed', rfl⟩ := ok_of_map second
  rw [sum_perm h summed summed', h.length_eq]

end FarmLedger.Number
