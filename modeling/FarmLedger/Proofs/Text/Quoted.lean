/-
# FarmLedger.Proofs.Text.Quoted — quoted texts can be told apart

A way to write things is `SelfDelimiting` if what is written shows where it ends: two things written
before any rests agree only if the things are the same, and the rests are. Such writings can stand
in a list, one after the other, and the list is again written so that its end shows
(`selfDelimiting_bracketed`).

Quoted texts are of this kind (`selfDelimiting_quoteChars`). The mark that opens a text closes it,
and inside it every character can be read back from what stands for it (`readEscaped_escapeChar`),
whichever of the two marks is used and whatever follows. What stands for a character never begins
with the mark itself, so the text goes on until the mark comes.
-/
import FarmLedger.Text.Quoted
import Mathlib.Algebra.Ring.Nat

namespace FarmLedger.Text

/-! ## Characters -/

/-- The value of a lower case hexadecimal digit. -/
def hexValue (c : Char) : Nat :=
  if c.toNat < 0x3A then c.toNat - 0x30 else c.toNat - 0x57

/-- The number that hexadecimal digits stand for. -/
def ofHexDigits (digits : List Char) : Nat :=
  digits.foldl (fun n c => 16 * n + hexValue c) 0

/-- Reads so many hexadecimal digits as the character of that code point. -/
def readCodePoint (width : Nat) (chars : List Char) : Char × List Char :=
  (Char.ofNat (ofHexDigits (chars.take width)), chars.drop width)

/-- Reads what stands for one character between two marks. -/
def readEscaped : List Char → Option (Char × List Char)
  | '\\' :: 't' :: rest => some ('\t', rest)
  | '\\' :: 'n' :: rest => some ('\n', rest)
  | '\\' :: 'r' :: rest => some ('\r', rest)
  | '\\' :: 'x' :: rest => some (readCodePoint 2 rest)
  | '\\' :: 'u' :: rest => some (readCodePoint 4 rest)
  | '\\' :: 'U' :: rest => some (readCodePoint 8 rest)
  | '\\' :: c :: rest => some (c, rest)
  | c :: rest => some (c, rest)
  | [] => none

theorem hexValue_hexDigit : ∀ n < 16, hexValue (hexDigit n) = n := by
  decide

theorem length_hexDigits (width n : Nat) : (hexDigits width n).length = width := by
  induction width generalizing n with
  | zero => rfl
  | succ width ih => rw [hexDigits, List.length_append, ih, List.length_singleton]

theorem ofHexDigits_hexDigits (width n : Nat) :
    ofHexDigits (hexDigits width n) = n % 16 ^ width := by
  induction width generalizing n with
  | zero => exact (Nat.mod_one n).symm
  | succ width ih =>
    have digit := hexValue_hexDigit (n % 16) (Nat.mod_lt _ (by decide))
    unfold ofHexDigits at ih ⊢
    rw [hexDigits, List.foldl_append, ih, List.foldl_cons, List.foldl_nil, digit,
      Nat.pow_succ', Nat.mod_mul]
    omega

/-- A code point that has so many digits is read back. -/
theorem readCodePoint_hexDigits (width : Nat) {c : Char} (fits : c.toNat < 16 ^ width)
    (rest : List Char) : readCodePoint width (hexDigits width c.toNat ++ rest) = (c, rest) := by
  have length := length_hexDigits width c.toNat
  unfold readCodePoint
  rw [List.take_left' length, List.drop_left' length, ofHexDigits_hexDigits,
    Nat.mod_eq_of_lt fits, Char.ofNat_toNat]

/-- One of the two marks that texts are quoted with. -/
def IsMark (c : Char) : Prop :=
  c = apostrophe ∨ c = doubleQuote

theorem isMark_quoteMark (chars : List Char) : IsMark (quoteMark chars) := by
  unfold quoteMark
  split
  · exact .inr rfl
  · exact .inl rfl

theorem IsMark.ne_backslash {mark : Char} (isMark : IsMark mark) : mark ≠ '\\' := by
  rcases isMark with rfl | rfl <;> decide

theorem toNat_lt_limit (c : Char) : c.toNat < 0x110000 := by
  have valid := c.valid
  simp only [UInt32.isValidChar, Nat.isValidChar] at valid
  simp only [Char.toNat]
  omega

/-- **What stands for a character is read back as the character**, whatever follows. -/
theorem readEscaped_escapeChar {mark : Char} (isMark : IsMark mark) (c : Char)
    (rest : List Char) : readEscaped (escapeChar mark c ++ rest) = some (c, rest) := by
  unfold escapeChar
  split
  · next shielded =>
    -- Neither mark is a letter that follows a backslash in another meaning.
    rcases shielded with rfl | rfl
    · rcases isMark with rfl | rfl <;> rfl
    · rfl
  · next bare =>
    split
    · next tab => exact tab ▸ rfl
    split
    · next feed => exact feed ▸ rfl
    split
    · next back => exact back ▸ rfl
    split
    · have notBackslash : c ≠ '\\' := fun same => bare (.inr same)
      show readEscaped (c :: rest) = _
      rw [readEscaped.eq_def]
      split <;> simp_all
    split
    · next fits => exact congrArg some (readCodePoint_hexDigits 2 fits rest)
    split
    · next fits => exact congrArg some (readCodePoint_hexDigits 4 fits rest)
    · have fits : c.toNat < 16 ^ 8 := Nat.lt_trans (toNat_lt_limit c) (by decide)
      exact congrArg some (readCodePoint_hexDigits 8 fits rest)

/-- What stands for a character does not begin with the mark. -/
theorem escapeChar_head {mark : Char} (isMark : IsMark mark) (c : Char) :
    ∃ head tail, escapeChar mark c = head :: tail ∧ head ≠ mark := by
  have backslash := isMark.ne_backslash.symm
  unfold escapeChar
  split
  · exact ⟨_, _, rfl, backslash⟩
  · next bare =>
    have notMark : c ≠ mark := fun same => bare (.inl same)
    repeat' split
    all_goals first | exact ⟨_, _, rfl, backslash⟩ | exact ⟨_, _, rfl, notMark⟩

/-! ## Writings that show where they end -/

/-- What is written shows where it ends, and what it is. -/
def SelfDelimiting {α : Type} (write : α → List Char) : Prop :=
  ∀ ⦃a b : α⦄ ⦃rest other : List Char⦄, write a ++ rest = write b ++ other → a = b ∧ rest = other

/-- Up to the closing mark there is one way to read characters. -/
theorem flatMap_escapeChar_inj {mark : Char} (isMark : IsMark mark) {s t rest other : List Char}
    (same : s.flatMap (escapeChar mark) ++ mark :: rest =
      t.flatMap (escapeChar mark) ++ mark :: other) : s = t ∧ rest = other := by
  induction s generalizing t with
  | nil =>
    cases t with
    | nil => exact ⟨rfl, (List.cons.inj same).2⟩
    | cons d t =>
      obtain ⟨head, tail, stands, different⟩ := escapeChar_head isMark d
      rw [List.flatMap_cons, stands] at same
      exact absurd (List.cons.inj same).1.symm different
  | cons c s ih =>
    cases t with
    | nil =>
      obtain ⟨head, tail, stands, different⟩ := escapeChar_head isMark c
      rw [List.flatMap_cons, stands] at same
      exact absurd (List.cons.inj same).1 different
    | cons d t =>
      rw [List.flatMap_cons, List.flatMap_cons, List.append_assoc, List.append_assoc] at same
      have read := congrArg readEscaped same
      rw [readEscaped_escapeChar isMark, readEscaped_escapeChar isMark, Option.some.injEq,
        Prod.mk.injEq] at read
      obtain ⟨rfl, after⟩ := read
      obtain ⟨rfl, rests⟩ := ih after
      exact ⟨rfl, rests⟩

theorem quoteChars_append (s rest : List Char) :
    quoteChars s ++ rest =
      quoteMark s :: (s.flatMap (escapeChar (quoteMark s)) ++ quoteMark s :: rest) := by
  simp [quoteChars]

/-- **Quoted characters show where they end.** The first character is the mark that ends them. -/
theorem selfDelimiting_quoteChars : SelfDelimiting quoteChars := by
  intro s t rest other same
  rw [quoteChars_append, quoteChars_append, List.cons.injEq] at same
  obtain ⟨marks, same⟩ := same
  rw [marks] at same
  exact flatMap_escapeChar_inj (isMark_quoteMark t) same

/-- A text in quotes begins with a mark. -/
theorem toList_quote?_some (text : String) : (quote? (some text)).toList = quoteChars text.toList :=
  String.toList_ofList

/-- `None` is not the beginning of a text in quotes. -/
theorem none_ne_quoted (text : String) (rest other : List Char) :
    (quote? none).toList ++ rest ≠ (quote? (some text)).toList ++ other := by
  rw [toList_quote?_some, quoteChars_append]
  intro same
  have mark := isMark_quoteMark text.toList
  rw [← (List.cons.inj same).1] at mark
  rcases mark with same | same <;> exact absurd same (by decide)

/-- Texts that may be absent show where they end. -/
theorem selfDelimiting_quote? : SelfDelimiting fun text => (quote? text).toList := by
  intro a b rest other same
  cases a with
  | none =>
    cases b with
    | none => exact ⟨rfl, List.append_cancel_left same⟩
    | some text => exact absurd same (none_ne_quoted text rest other)
  | some text =>
    cases b with
    | none => exact absurd same.symm (none_ne_quoted text other rest)
    | some text' =>
      simp only [toList_quote?_some] at same
      obtain ⟨texts, rests⟩ := selfDelimiting_quoteChars same
      exact ⟨congrArg some (String.toList_inj.1 texts), rests⟩

/-! ## Lists -/

/-- The items after the first one, each behind a comma and a blank. -/
def laterItems {α : Type} (write : α → String) (items : List α) : List Char :=
  items.flatMap fun item => ',' :: ' ' :: (write item).toList

section Lists

variable {α : Type} {write : α → String} {items others : List α} {rest other : List Char}

theorem toList_bracketed_nil : (bracketed []).toList = ['[', ']'] := rfl

theorem toList_intercalate_cons (item : α) (items : List α) :
    (", ".intercalate ((item :: items).map write)).toList =
      (write item).toList ++ laterItems write items := by
  rw [String.toList_intercalate]
  induction items generalizing item with
  | nil => simp [laterItems]
  | cons next items ih =>
    have later := ih next
    simp only [List.map_cons, List.intercalate_cons_cons] at later ⊢
    rw [later]
    simp [laterItems]

theorem toList_bracketed_cons (item : α) (items : List α) :
    (bracketed ((item :: items).map write)).toList =
      '[' :: ((write item).toList ++ (laterItems write items ++ [']'])) := by
  unfold bracketed
  rw [String.toList_append, String.toList_append, toList_intercalate_cons]
  simp

/-- Behind each item a comma or the closing bracket tells whether there is another one. -/
theorem laterItems_inj (delimits : SelfDelimiting fun item => (write item).toList)
    (same : laterItems write items ++ ']' :: rest = laterItems write others ++ ']' :: other) :
    items = others ∧ rest = other := by
  induction items generalizing others with
  | nil =>
    cases others with
    | nil => exact ⟨rfl, (List.cons.inj same).2⟩
    | cons b others => exact absurd (List.cons.inj same).1 (by decide)
  | cons a items ih =>
    cases others with
    | nil => exact absurd (List.cons.inj same).1 (by decide)
    | cons b others =>
      have items_ : (write a).toList ++ (laterItems write items ++ ']' :: rest) =
          (write b).toList ++ (laterItems write others ++ ']' :: other) := by
        simpa [laterItems] using same
      obtain ⟨rfl, later⟩ := delimits items_
      obtain ⟨rfl, rests⟩ := ih later
      exact ⟨rfl, rests⟩

/-- **A list shows where it ends** if its items do, and if none of them begins with a closing
bracket. -/
theorem selfDelimiting_bracketed (delimits : SelfDelimiting fun item => (write item).toList)
    (opens : ∀ item, ∃ head tail, (write item).toList = head :: tail ∧ head ≠ ']') :
    SelfDelimiting fun items : List α => (bracketed (items.map write)).toList := by
  have notEmpty (item : α) (items : List α) (rest other : List Char) :
      (bracketed (([] : List α).map write)).toList ++ rest ≠
        (bracketed ((item :: items).map write)).toList ++ other := by
    rw [List.map_nil, toList_bracketed_nil, toList_bracketed_cons]
    intro same
    obtain ⟨head, tail, written, notClosing⟩ := opens item
    rw [written] at same
    exact notClosing (List.cons.inj (List.cons.inj same).2).1.symm
  intro items others rest other same
  cases items with
  | nil =>
    cases others with
    | nil => exact ⟨rfl, List.append_cancel_left same⟩
    | cons b others => exact absurd same (notEmpty b others rest other)
  | cons a items =>
    cases others with
    | nil => exact absurd same.symm (notEmpty a items other rest)
    | cons b others =>
      simp only [toList_bracketed_cons, List.cons_append, List.append_assoc, List.nil_append,
        List.cons.injEq, true_and] at same
      obtain ⟨rfl, later⟩ := delimits same
      obtain ⟨rfl, rests⟩ := laterItems_inj delimits later
      exact ⟨rfl, rests⟩

end Lists

end FarmLedger.Text
