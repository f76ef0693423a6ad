/-
# FarmLedger.Proofs.Prices.Identifier — when two prices have the same identifier

An identifier is the platform, a hyphen and what is kept of the asset (`priceTail`), which has one
hyphen at most. Nothing marks where the platform ends, and a platform may have hyphens of its own:
`priceIdentifier_shared_iff` lists the platforms that can share the identifier of a price. There is
no other than its own exactly if neither the platform nor the asset has a hyphen.
-/
import FarmLedger.Ledger.Quote
import FarmLedger.Proofs.Text.Chunks

namespace FarmLedger

open FarmLedger.Text

/-! ## What is kept of an asset -/

/-- The part of an asset's name that its identifiers end with. -/
def priceTail (asset : List Char) : List Char :=
  match chunks '-' asset with
  | _ :: first :: second :: _ => first ++ '-' :: second
  | _ => asset

variable {platform other asset : String} {text first second : List Char}

theorem priceIdentifier_toList (platform asset : String) :
    (priceIdentifier platform asset).toList =
      platform.toList ++ '-' :: priceTail asset.toList := by
  unfold priceIdentifier priceTail
  split <;> simp [*]

theorem priceTail_of_not_mem (free : '-' ∉ text) : priceTail text = text := by
  unfold priceTail
  rw [chunks_of_not_mem free]

theorem priceTail_pair (firstFree : '-' ∉ first) (secondFree : '-' ∉ second) :
    priceTail (first ++ '-' :: second) = first ++ '-' :: second := by
  unfold priceTail
  rw [chunks_append firstFree, chunks_of_not_mem secondFree]

/-- What is kept has a hyphen if there was one, and then it is the only one. -/
theorem priceTail_of_mem (marked : '-' ∈ text) :
    ∃ first second, priceTail text = first ++ '-' :: second ∧ '-' ∉ first ∧ '-' ∉ second := by
  obtain ⟨venue, rest, rfl, venueFree⟩ := List.eq_append_cons_of_mem marked
  by_cases more : '-' ∈ rest
  · obtain ⟨first, rest, rfl, firstFree⟩ := List.eq_append_cons_of_mem more
    obtain ⟨second, others, cut, secondFree⟩ := @chunks_head '-' rest
    refine ⟨first, second, ?_, firstFree, secondFree⟩
    unfold priceTail
    rw [chunks_append venueFree, chunks_append firstFree, cut]
  · exact ⟨venue, rest, priceTail_pair venueFree more, venueFree, more⟩

/-- Two parts with a hyphen between them are kept of an asset with a hyphen only, and have none. -/
theorem free_of_priceTail (kept : priceTail text = first ++ '-' :: second) :
    '-' ∈ text ∧ '-' ∉ first ∧ '-' ∉ second := by
  by_cases marked : '-' ∈ text
  · refine ⟨marked, ?_⟩
    obtain ⟨first', second', same, firstFree, secondFree⟩ := priceTail_of_mem marked
    rcases append_mark_eq_iff.1 (kept.symm.trans same) with
      ⟨rfl, rfl⟩ | ⟨part, rfl, _⟩ | ⟨part, _, rfl⟩
    · exact ⟨firstFree, secondFree⟩
    · exact absurd (List.mem_append_right _ List.mem_cons_self) firstFree
    · exact absurd (List.mem_append_right _ List.mem_cons_self) secondFree
  · rw [priceTail_of_not_mem marked] at kept
    rw [kept] at marked
    exact absurd (List.mem_append_right _ List.mem_cons_self) marked

/-! ## Shared identifiers -/

/-- **The platforms that can share an identifier.** It is shared where a last part of the platform
can be taken for the asset's venue, or a first part of what is kept of the asset for the platform's
last part. -/
theorem priceIdentifier_shared_iff :
    (∃ quoted, priceIdentifier other quoted = priceIdentifier platform asset) ↔
      other = platform ∨
        (∃ part : String, platform = other ++ "-" ++ part ∧ '-' ∉ part.toList ∧
          '-' ∉ asset.toList) ∨
        ∃ part rest : String, other = platform ++ "-" ++ part ∧
          priceTail asset.toList = part.toList ++ '-' :: rest.toList := by
  constructor
  · rintro ⟨quoted, same⟩
    rw [← String.toList_inj, priceIdentifier_toList, priceIdentifier_toList,
      append_mark_eq_iff] at same
    rcases same with ⟨same, _⟩ | ⟨part, longer, kept⟩ | ⟨part, longer, kept⟩
    · exact .inl (String.toList_inj.1 same)
    · obtain ⟨_, partFree, tailFree⟩ := free_of_priceTail kept
      refine .inr (.inl ⟨String.ofList part, ?_, ?_, ?_⟩)
      · rw [append_hyphen_eq_iff, String.toList_ofList]
        exact longer
      · rw [String.toList_ofList]
        exact partFree
      · intro marked
        obtain ⟨first, second, tail, _, _⟩ := priceTail_of_mem marked
        rw [tail] at tailFree
        exact tailFree (List.mem_append_right _ List.mem_cons_self)
    · refine .inr (.inr ⟨String.ofList part, String.ofList (priceTail quoted.toList), ?_, ?_⟩)
      · rw [append_hyphen_eq_iff, String.toList_ofList]
        exact longer
      · rw [String.toList_ofList, String.toList_ofList]
        exact kept
  · rintro (rfl | ⟨part, longer, partFree, assetFree⟩ | ⟨part, rest, longer, kept⟩)
    · exact ⟨asset, rfl⟩
    · refine ⟨part ++ "-" ++ asset, ?_⟩
      have quoted : priceTail (part ++ "-" ++ asset).toList =
          part.toList ++ '-' :: asset.toList := by
        rw [append_hyphen_eq_iff.1 rfl, priceTail_pair partFree assetFree]
      rw [← String.toList_inj, priceIdentifier_toList, priceIdentifier_toList, quoted,
        priceTail_of_not_mem assetFree, append_mark_eq_iff]
      exact .inr (.inl ⟨part.toList, append_hyphen_eq_iff.1 longer, rfl⟩)
    · obtain ⟨_, _, restFree⟩ := free_of_priceTail kept
      refine ⟨rest, ?_⟩
      rw [← String.toList_inj, priceIdentifier_toList, priceIdentifier_toList, kept,
        priceTail_of_not_mem restFree, append_mark_eq_iff]
      exact .inr (.inr ⟨part.toList, append_hyphen_eq_iff.1 longer, rfl⟩)

/-- **A price shares its identifier with no other platform** exactly if there is no hyphen in it. -/
theorem priceIdentifier_own_iff :
    (∀ other quoted, priceIdentifier other quoted = priceIdentifier platform asset →
        other = platform) ↔
      '-' ∉ platform.toList ∧ '-' ∉ asset.toList := by
  constructor
  · intro own
    have shared {other : String} (h : ∃ quoted, priceIdentifier other quoted =
        priceIdentifier platform asset) : other = platform :=
      h.elim (own other)
    have assetFree : '-' ∉ asset.toList := by
      intro marked
      obtain ⟨first, second, kept, _, _⟩ := priceTail_of_mem marked
      have kept_ : priceTail asset.toList =
          (String.ofList first).toList ++ '-' :: (String.ofList second).toList := by
        rw [String.toList_ofList, String.toList_ofList]
        exact kept
      exact append_hyphen_ne (shared (priceIdentifier_shared_iff.2 (.inr (.inr
        ⟨String.ofList first, String.ofList second, rfl, kept_⟩))))
    refine ⟨?_, assetFree⟩
    intro marked
    obtain ⟨front, back, cut, backFree⟩ := exists_last_mark marked
    have longer : platform = String.ofList front ++ "-" ++ String.ofList back := by
      rw [append_hyphen_eq_iff, String.toList_ofList, String.toList_ofList]
      exact cut
    have same := shared (priceIdentifier_shared_iff.2 (.inr (.inl
      ⟨String.ofList back, longer, by rwa [String.toList_ofList], assetFree⟩)))
    rw [same] at longer
    exact append_hyphen_ne longer.symm
  · rintro ⟨platformFree, assetFree⟩ other quoted same
    rcases priceIdentifier_shared_iff.1 ⟨quoted, same⟩ with
      own | ⟨part, longer, _, _⟩ | ⟨part, rest, _, kept⟩
    · exact own
    · rw [append_hyphen_eq_iff.1 longer] at platformFree
      exact absurd (List.mem_append_right _ List.mem_cons_self) platformFree
    · exact absurd (free_of_priceTail kept).1 assetFree

end FarmLedger
