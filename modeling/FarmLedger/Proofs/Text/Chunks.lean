/-
# FarmLedger.Proofs.Text.Chunks — where texts are cut

`chunks` is the library's `List.splitOn` (`chunks_eq_splitOn`), so that what is known of the one
holds of the other. `append_mark_eq_iff` compares two texts that are put together at a mark: they
may be cut at the same mark, or at two marks, and then some part stands in the one before its mark
and in the other after it.
-/
import FarmLedger.Text.Parts

namespace FarmLedger.Text

variable {mark : Char} {text first second rest : List Char}

theorem chunks_eq_splitOn : chunks mark text = text.splitOn mark := by
  induction text with
  | nil => rfl
  | cons c rest ih =>
    have some_ : chunks mark rest ≠ [] := ih ▸ List.splitOn_ne_nil mark rest
    rw [List.splitOn_cons_eq_if_modifyHead, ← ih, chunks]
    by_cases marked : c = mark
    · rw [if_pos marked, if_pos (beq_iff_eq.2 marked)]
    · rw [if_neg marked, if_neg (mt beq_iff_eq.1 marked)]
      obtain ⟨chunk, others, cut⟩ := List.exists_cons_of_ne_nil some_
      rw [cut]
      rfl

theorem chunks_of_not_mem (free : mark ∉ text) : chunks mark text = [text] := by
  rw [chunks_eq_splitOn, List.splitOn_eq_singleton free]

theorem chunks_append (free : mark ∉ first) :
    chunks mark (first ++ mark :: rest) = first :: chunks mark rest := by
  rw [chunks_eq_splitOn, chunks_eq_splitOn, List.splitOn_append_cons_self_of_not_mem free]

/-- The first chunk is without the mark. -/
theorem chunks_head : ∃ first others, chunks mark text = first :: others ∧ mark ∉ first := by
  by_cases marked : mark ∈ text
  · obtain ⟨first, rest, rfl, free⟩ := List.eq_append_cons_of_mem marked
    exact ⟨first, _, chunks_append free, free⟩
  · exact ⟨text, [], chunks_of_not_mem marked, marked⟩

/-- A text with a mark in it may be cut at the last one. -/
theorem exists_last_mark (marked : mark ∈ text) :
    ∃ front back, text = front ++ mark :: back ∧ mark ∉ back := by
  obtain ⟨back, front, reversed, free⟩ :=
    List.eq_append_cons_of_mem (List.mem_reverse.2 marked)
  refine ⟨front.reverse, back.reverse, ?_, fun mem => free (List.mem_reverse.1 mem)⟩
  rw [← List.reverse_reverse text, reversed]
  simp

/-- **Two texts that are put together at a mark are the same** if they are so part by part, or if
one is cut at an earlier mark than the other. -/
theorem append_mark_eq_iff {a b x y : List Char} :
    a ++ mark :: x = b ++ mark :: y ↔
      (a = b ∧ x = y) ∨ (∃ part, b = a ++ mark :: part ∧ x = part ++ mark :: y) ∨
        ∃ part, a = b ++ mark :: part ∧ y = part ++ mark :: x := by
  constructor
  · intro same
    rcases List.append_eq_append_iff.1 same with
      ⟨between, longer, same⟩ | ⟨between, longer, same⟩
    · cases between with
      | nil =>
        rw [List.append_nil] at longer
        exact .inl ⟨longer.symm, (List.cons.inj same).2⟩
      | cons c part =>
        obtain ⟨rfl, after⟩ := List.cons.inj same
        exact .inr (.inl ⟨part, longer, after⟩)
    · cases between with
      | nil =>
        rw [List.append_nil] at longer
        exact .inl ⟨longer, (List.cons.inj same).2.symm⟩
      | cons c part =>
        obtain ⟨rfl, after⟩ := List.cons.inj same
        exact .inr (.inr ⟨part, longer, after⟩)
  · rintro (⟨rfl, rfl⟩ | ⟨part, rfl, rfl⟩ | ⟨part, rfl, rfl⟩)
    · rfl
    · rw [List.append_assoc, List.cons_append]
    · rw [List.append_assoc, List.cons_append]

/-! ## Hyphens -/

theorem append_hyphen_eq_iff {whole other part : String} :
    whole = other ++ "-" ++ part ↔ whole.toList = other.toList ++ '-' :: part.toList := by
  rw [← String.toList_inj]
  simp

theorem append_hyphen_ne {text part : String} : text ++ "-" ++ part ≠ text := by
  intro same
  have lengths := congrArg List.length (append_hyphen_eq_iff.1 same.symm)
  rw [List.length_append, List.length_cons] at lengths
  omega

/-- A text with a hyphen is two texts with a hyphen between them. -/
theorem exists_parts {text : String} (marked : '-' ∈ text.toList) :
    ∃ front back : String, text = front ++ "-" ++ back := by
  obtain ⟨front, back, cut, _⟩ := exists_last_mark marked
  refine ⟨String.ofList front, String.ofList back, ?_⟩
  rw [append_hyphen_eq_iff, String.toList_ofList, String.toList_ofList]
  exact cut

end FarmLedger.Text
