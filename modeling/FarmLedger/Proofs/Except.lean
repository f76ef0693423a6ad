/-
# FarmLedger.Proofs.Except — results that there are

A computation that may fail is taken apart from its result: if there is one, every part of the
computation has one. These lemmas serve all that follows.
-/
import Mathlib.Data.List.Forall2

namespace FarmLedger

variable {ε ε' α β γ : Type} {value : β}

theorem ok_of_bind {first : Except ε α} {rest : α → Except ε β}
    (h : (first >>= rest) = .ok value) : ∃ a, first = .ok a ∧ rest a = .ok value := by
  cases first with
  | error _ => cases h
  | ok a => exact ⟨a, rfl, h⟩

theorem bind_ok {first : Except ε α} {rest : α → Except ε β} {a : α} (h : first = .ok a)
    (then_ : rest a = .ok value) : (first >>= rest) = .ok value := by
  rw [h]
  exact then_

/-- What fails, fails in its first part, or in the rest. -/
theorem error_of_bind {first : Except ε α} {rest : α → Except ε β} {failure : ε}
    (h : (first >>= rest) = .error failure) :
    first = .error failure ∨ ∃ a, first = .ok a ∧ rest a = .error failure := by
  cases first with
  | error _ => exact .inl (congrArg _ (Except.error.inj h))
  | ok a => exact .inr ⟨a, rfl, h⟩

theorem map_bind {first : Except ε α} {rest : α → Except ε β} {f : β → γ} :
    (first >>= rest).map f = first >>= fun a => (rest a).map f := by
  cases first <;> rfl

theorem ok_of_map {given : Except ε α} {f : α → β} (h : given.map f = .ok value) :
    ∃ a, given = .ok a ∧ f a = value := by
  cases given with
  | error _ => cases h
  | ok a =>
    cases h
    exact ⟨a, rfl, rfl⟩

theorem error_of_map {given : Except ε α} {f : α → β} {failure : ε}
    (h : given.map f = .error failure) : given = .error failure := by
  cases given with
  | error _ => exact congrArg _ (Except.error.inj h)
  | ok _ => cases h

theorem ok_of_mapError {given : Except ε β} {f : ε → ε'} (h : given.mapError f = .ok value) :
    given = .ok value := by
  cases given with
  | error _ => cases h
  | ok a =>
    cases h
    rfl

theorem toOption_eq_some {given : Except ε β} :
    given.toOption = some value ↔ given = .ok value := by
  cases given with
  | error _ => exact ⟨nofun, nofun⟩
  | ok _ => exact ⟨fun same => congrArg _ (Option.some.inj same), fun same => by cases same; rfl⟩

theorem ok_of_forM {items : List α} {f : α → Except ε Unit} (h : items.forM f = .ok ()) :
    ∀ a ∈ items, f a = .ok () := by
  induction items with
  | nil => exact List.forall_mem_nil _
  | cons a items ih =>
    obtain ⟨_, first, rest⟩ := ok_of_bind h
    exact List.forall_mem_cons.2 ⟨first, ih rest⟩

/-- If not all items pass, one of them fails. -/
theorem error_of_forM {items : List α} {f : α → Except ε Unit} {failure : ε}
    (h : items.forM f = .error failure) : ∃ a ∈ items, f a = .error failure := by
  induction items with
  | nil => cases h
  | cons a items ih =>
    rcases error_of_bind h with first | ⟨_, _, rest⟩
    · exact ⟨a, List.mem_cons_self, first⟩
    · obtain ⟨other, mem, failed⟩ := ih rest
      exact ⟨other, List.mem_cons_of_mem _ mem, failed⟩

/-- The results are those of the items, one by one. -/
theorem mapM_ok_iff {items : List α} {f : α → Except ε β} {results : List β} :
    items.mapM f = .ok results ↔ List.Forall₂ (fun a b => f a = .ok b) items results := by
  induction items generalizing results with
  | nil =>
    rw [List.mapM_nil, List.forall₂_nil_left_iff]
    exact ⟨fun same => (Except.ok.inj same).symm, fun none_ => congrArg _ none_.symm⟩
  | cons a items ih =>
    rw [List.mapM_cons, List.forall₂_cons_left_iff]
    constructor
    · intro h
      obtain ⟨b, result, h⟩ := ok_of_bind h
      obtain ⟨others, rest, h⟩ := ok_of_bind h
      exact ⟨b, others, result, ih.1 rest, (Except.ok.inj h).symm⟩
    · rintro ⟨b, others, result, rest, rfl⟩
      exact bind_ok result (bind_ok (ih.2 rest) rfl)

theorem ok_of_mapM {items : List α} {f : α → Except ε β} {results : List β}
    (h : items.mapM f = .ok results) : ∀ a ∈ items, ∃ b ∈ results, f a = .ok b := by
  have each := mapM_ok_iff.1 h
  clear h
  induction each with
  | nil => exact List.forall_mem_nil _
  | cons first _ ih =>
    refine List.forall_mem_cons.2 ⟨⟨_, List.mem_cons_self, first⟩, fun a mem => ?_⟩
    obtain ⟨b, among, result⟩ := ih a mem
    exact ⟨b, List.mem_cons_of_mem _ among, result⟩

/-- If there are no results, an item has none. -/
theorem error_of_mapM {items : List α} {f : α → Except ε β} {failure : ε}
    (h : items.mapM f = .error failure) : ∃ a ∈ items, f a = .error failure := by
  induction items with
  | nil => cases h
  | cons a items ih =>
    rw [List.mapM_cons] at h
    cases result : f a with
    | error other =>
      rw [result] at h
      cases h
      exact ⟨a, List.mem_cons_self, result⟩
    | ok b =>
      cases rest : items.mapM f with
      | error other =>
        rw [result, rest] at h
        cases h
        obtain ⟨other, mem, failed⟩ := ih rest
        exact ⟨other, List.mem_cons_of_mem _ mem, failed⟩
      | ok others =>
        rw [result, rest] at h
        cases h

/-- If every item has a result, all of them have; the items may be seen in their results. -/
theorem mapM_ok {items : List α} {f : α → Except ε β} {g : β → α}
    (each : ∀ a ∈ items, ∃ b, f a = .ok b ∧ g b = a) :
    ∃ results, items.mapM f = .ok results ∧ results.map g = items := by
  induction items with
  | nil => exact ⟨[], rfl, rfl⟩
  | cons a items ih =>
    obtain ⟨b, result, same⟩ := each a List.mem_cons_self
    obtain ⟨results, rest, sames⟩ := ih fun other mem => each other (List.mem_cons_of_mem _ mem)
    refine ⟨b :: results, ?_, ?_⟩
    · rw [List.mapM_cons, result, rest]
      rfl
    · rw [List.map_cons, same, sames]

end FarmLedger
