/-
# FarmLedger.Proofs.Text.Upper — upper case is reached at once

Pairs of rates are brought to upper case when they are put and once more when they are looked for,
so a name has to stay as it is the second time: `upper_upper`. This is a fact about the data. No
capital letter is itself a character that `upperChar` changes (`capitals_stay`); the two sets of
code points are held as the bits of two numbers, which have none in common.

`upper_append` is what upper case does to a name that is put together from parts.
-/
import FarmLedger.Text.Upper
import Mathlib.Data.Nat.Bitwise

namespace FarmLedger.Text

/-! ## The code points that change and the ones that they change to -/

/-- The code points that a run moves. -/
def UpperRun.codes (run : UpperRun) : List Nat :=
  (List.range ((run.last - run.first) / run.step + 1)).map fun i => run.first + i * run.step

/-- The code points of all characters that have capital letters. -/
def changingCodes : List Nat :=
  upperRuns.flatMap UpperRun.codes ++ upperWords.map Prod.fst

/-- The code points of all capital letters, and the one that stands in for none. -/
def capitalCodes : List Nat :=
  0 :: ((upperRuns.flatMap fun run => run.codes.map fun (code : Nat) => (code + run.shift).toNat)
    ++ upperWords.flatMap Prod.snd)

/-- The number whose bits are a list of positions. -/
def bitsOf (positions : List Nat) : Nat :=
  positions.foldr (fun position bits => 2 ^ position ||| bits) 0

theorem testBit_bitsOf (positions : List Nat) (n : Nat) :
    (bitsOf positions).testBit n = true ↔ n ∈ positions := by
  induction positions with
  | nil => simp [bitsOf]
  | cons position positions ih =>
    have step : bitsOf (position :: positions) = 2 ^ position ||| bitsOf positions := rfl
    rw [step, Nat.testBit_or, Bool.or_eq_true, ih, Nat.testBit_two_pow, decide_eq_true_iff,
      List.mem_cons, eq_comm]

theorem bits_apart : bitsOf capitalCodes &&& bitsOf changingCodes = 0 := by
  decide +kernel

theorem capital_not_changing {code : Nat} (capital : code ∈ capitalCodes) :
    code ∉ changingCodes := by
  intro changing
  have both : (bitsOf capitalCodes &&& bitsOf changingCodes).testBit code = true := by
    rw [Nat.testBit_and, Bool.and_eq_true]
    exact ⟨(testBit_bitsOf _ _).2 capital, (testBit_bitsOf _ _).2 changing⟩
  rw [bits_apart, Nat.zero_testBit] at both
  exact Bool.false_ne_true both

/-! ## Characters -/

theorem UpperRun.mem_codes {run : UpperRun} {code : Nat} (covered : run.covers code = true) :
    code ∈ run.codes := by
  simp only [covers, Bool.and_eq_true, decide_eq_true_eq, beq_iff_eq] at covered
  obtain ⟨⟨low, high⟩, step⟩ := covered
  refine List.mem_map.2 ⟨(code - run.first) / run.step, List.mem_range.2 ?_, ?_⟩
  · exact Nat.lt_succ_of_le (Nat.div_le_div_right (by omega))
  · rw [Nat.div_mul_cancel (Nat.dvd_of_mod_eq_zero step)]
    omega

theorem toNat_ofNat (code : Nat) :
    (Char.ofNat code).toNat = code ∨ (Char.ofNat code).toNat = 0 := by
  by_cases valid : code.isValidChar
  · exact .inl (by rw [Char.ofNat, dif_pos valid]; rfl)
  · exact .inr (by rw [Char.ofNat, dif_neg valid]; rfl)

theorem ofNat_capital {code : Nat} (capital : code ∈ capitalCodes) :
    (Char.ofNat code).toNat ∈ capitalCodes := by
  rcases toNat_ofNat code with same | zero
  · rwa [same]
  · rw [zero]
    exact List.mem_cons_self

/-- A character that does not change, or its capital letters. -/
theorem upperChar_cases (c : Char) :
    upperChar c = [c] ∨
      c.toNat ∈ changingCodes ∧ ∀ letter ∈ upperChar c, letter.toNat ∈ capitalCodes := by
  unfold upperChar
  cases run? : upperRuns.find? (·.covers c.toNat) with
  | some run =>
    have moved : c.toNat ∈ run.codes := UpperRun.mem_codes (by simpa using List.find?_some run?)
    have mem := List.mem_of_find?_eq_some run?
    refine .inr ⟨List.mem_append_left _ (List.mem_flatMap.2 ⟨run, mem, moved⟩), ?_⟩
    intro letter among
    rw [List.mem_singleton.1 among]
    exact ofNat_capital (List.mem_cons_of_mem _ (List.mem_append_left _
      (List.mem_flatMap.2 ⟨run, mem, List.mem_map.2 ⟨_, moved, rfl⟩⟩)))
  | none =>
    cases word? : upperWords.lookup c.toNat with
    | none => exact .inl rfl
    | some codes =>
      obtain ⟨before, after, split, _⟩ := List.lookup_eq_some_iff.1 word?
      have mem : (c.toNat, codes) ∈ upperWords := by
        rw [split]
        exact List.mem_append_right _ List.mem_cons_self
      refine .inr ⟨List.mem_append_right _ (List.mem_map.2 ⟨_, mem, rfl⟩), ?_⟩
      intro letter among
      obtain ⟨code, codeMem, rfl⟩ := List.mem_map.1 among
      exact ofNat_capital (List.mem_cons_of_mem _ (List.mem_append_right _
        (List.mem_flatMap.2 ⟨_, mem, codeMem⟩)))

theorem capitals_stay {c letter : Char} (among : letter ∈ upperChar c) :
    upperChar letter = [letter] := by
  rcases upperChar_cases c with stays | ⟨_, capitals⟩
  · rw [stays] at among
    rw [List.mem_singleton.1 among, stays]
  · rcases upperChar_cases letter with stays | ⟨changing, _⟩
    · exact stays
    · exact absurd changing (capital_not_changing (capitals letter among))

/-! ## Texts -/

theorem toList_upper (text : String) : (upper text).toList = text.toList.flatMap upperChar := by
  simp [upper]

theorem upper_append (a b : String) : upper (a ++ b) = upper a ++ upper b := by
  simp [upper]

theorem upper_hyphenated (a b : String) : upper (a ++ "-" ++ b) = upper a ++ "-" ++ upper b := by
  have hyphen : upper "-" = "-" := by decide +kernel
  rw [upper_append, upper_append, hyphen]

theorem flatMap_stays {letters : List Char} (stay : ∀ c ∈ letters, upperChar c = [c]) :
    letters.flatMap upperChar = letters := by
  induction letters with
  | nil => rfl
  | cons c letters ih =>
    rw [List.flatMap_cons, stay c List.mem_cons_self,
      ih fun d mem => stay d (List.mem_cons_of_mem _ mem), List.singleton_append]

/-- **Upper case is in upper case.** -/
theorem upper_upper (text : String) : upper (upper text) = upper text := by
  apply String.toList_inj.1
  rw [toList_upper, toList_upper]
  apply flatMap_stays
  intro letter mem
  obtain ⟨c, _, among⟩ := List.mem_flatMap.1 mem
  exact capitals_stay among

example : upper "ray-ß" = "RAY-SS" := by decide +kernel

/-- A text is in upper case exactly if none of its characters changes. -/
theorem upper_eq_self_iff {text : String} :
    upper text = text ↔ ∀ c ∈ text.toList, upperChar c = [c] := by
  constructor
  · intro same c mem
    rw [← same, toList_upper] at mem
    obtain ⟨d, _, among⟩ := List.mem_flatMap.1 mem
    exact capitals_stay among
  · intro stay
    rw [← String.toList_inj, toList_upper]
    exact flatMap_stays stay

/-- What is cut out of a text in upper case is in upper case. -/
theorem upper_of_subset {text part : String} (within : part.toList ⊆ (upper text).toList) :
    upper part = part := by
  have stay := upper_eq_self_iff.1 (upper_upper text)
  exact upper_eq_self_iff.2 fun c mem => stay c (within mem)

/-- A mark that is no letter is in upper case where it was before. -/
theorem mark_mem_upper {mark : Char} {text : String} (noCapital : mark.toNat ∉ capitalCodes)
    (stays : upperChar mark = [mark]) : mark ∈ (upper text).toList ↔ mark ∈ text.toList := by
  rw [toList_upper, List.mem_flatMap]
  constructor
  · rintro ⟨c, mem, among⟩
    rcases upperChar_cases c with same | ⟨_, capitals⟩
    · rw [same] at among
      rwa [List.mem_singleton.1 among]
    · exact absurd (capitals mark among) noCapital
  · intro mem
    refine ⟨mark, mem, ?_⟩
    rw [stays]
    exact List.mem_singleton_self mark

theorem hyphen_mem_upper {text : String} : '-' ∈ (upper text).toList ↔ '-' ∈ text.toList := by
  refine mark_mem_upper ?_ (by decide +kernel)
  rw [← testBit_bitsOf]
  decide +kernel

theorem toUpper_of_stays {c : Char} (stays : upperChar c = [c]) : c.toUpper = c := by
  have small : ∀ code ∈ List.range' 97 26, upperChar (Char.ofNat code) ≠ [Char.ofNat code] := by
    decide +kernel
  unfold Char.toUpper
  split
  · next letter =>
    refine absurd ?_ (small c.toNat ?_)
    · rw [Char.ofNat_toNat]
      exact stays
    · rw [List.mem_range'_1]
      exact ⟨letter.1, Nat.lt_succ_of_le letter.2⟩
  · rfl

/-- A text in upper case passes for one in the database. -/
theorem asciiUpper_upper (text : String) : asciiUpper (upper text) = upper text := by
  have stay := upper_eq_self_iff.1 (upper_upper text)
  unfold asciiUpper
  rw [List.map_congr_left fun c mem => toUpper_of_stays (stay c mem), List.map_id',
    String.ofList_toList]

end FarmLedger.Text
