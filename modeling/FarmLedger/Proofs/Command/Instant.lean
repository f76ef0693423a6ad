/-
# FarmLedger.Proofs.Command.Instant — what the ledger prints can be given to it

The ledger prints moments in three ways: with a `Z` for UTC, with the offset of the clock that
showed them, and as the moments of its rows. An option that names a moment takes all three.
`printed_instants_read` says that it takes them as the moment that was printed, to the microsecond
and over the whole calendar, with one exception: an offset that is less than a second is printed,
but not read, and what the clock showed is then taken for UTC (`readInstant_iso`).
-/
import FarmLedger.Command.Options
import FarmLedger.Proofs.Except
import FarmLedger.Proofs.Time.IsoReader
import FarmLedger.Record.Answer
import Mathlib.Data.List.TakeWhile

namespace FarmLedger.Command

open FarmLedger.Text FarmLedger.Time FarmLedger.Time.IsoReader

/-! ## What is done to a text before it is read -/

theorem isIsoChar_plain :
    ∀ n < 128, isIsoChar (Char.ofNat n) = true →
      isBlank (Char.ofNat n) = false ∧ Char.ofNat n ≠ 'Z' := by
  decide

variable {chars : List Char}

theorem plain_of_isIsoChar {c : Char} (iso : isIsoChar c = true) :
    isBlank c = false ∧ c ≠ 'Z' := by
  have plain := isIsoChar_plain c.toNat (toNat_lt_of_isIsoChar iso)
  rw [Char.ofNat_toNat] at plain
  exact plain iso

theorem dropWhile_isBlank (visible : ∀ c ∈ chars, isBlank c = false) :
    chars.dropWhile isBlank = chars :=
  List.dropWhile_eq_self_iff.2 fun some_ =>
    Bool.eq_false_iff.1 (visible _ (List.getElem_mem some_))

theorem trim_ofList (visible : ∀ c ∈ chars, isBlank c = false) :
    trim (String.ofList chars) = String.ofList chars := by
  rw [trim, String.toList_ofList, trimBy, dropWhile_isBlank visible,
    dropWhile_isBlank fun c mem => visible c (List.mem_reverse.1 mem), List.reverse_reverse]

/-- A character with a `Z` written out. -/
def spelled (c : Char) : List Char :=
  if c = 'Z' then "+00:00".toList else [c]

theorem spellOutZulu_ofList (chars : List Char) :
    spellOutZulu (String.ofList chars) = String.ofList (chars.flatMap spelled) := by
  have own : (String.ofList chars).toList = chars := String.toList_ofList
  show String.ofList ((String.ofList chars).toList.flatMap spelled) = _
  rw [own]

theorem flatMap_spelled (iso : ∀ c ∈ chars, isIsoChar c = true) :
    chars.flatMap spelled = chars := by
  induction chars with
  | nil => rfl
  | cons c chars ih =>
    have plain : spelled c = [c] := if_neg (plain_of_isIsoChar (iso c List.mem_cons_self)).2
    rw [List.flatMap_cons, plain, ih fun other mem => iso other (List.mem_cons_of_mem _ mem)]
    rfl

/-- A written timestamp is read as it stands. -/
theorem spelled_iso (t : Timestamp) : spellOutZulu (trim t.iso) = t.iso := by
  have iso := List.all_eq_true.1 (all_isoChars t)
  rw [Timestamp.iso, trim_ofList fun c mem => (plain_of_isIsoChar (iso c mem)).1,
    spellOutZulu_ofList, flatMap_spelled iso]

/-- A moment in UTC, written with a `Z`. -/
def zuluText (m : Moment) : String :=
  String.ofList (Timestamp.isoChars ⟨m, none⟩ ++ ['Z'])

/-- Written with a `Z`, a moment is read as if its offset had been written. -/
theorem spelled_zulu (m : Moment) : spellOutZulu (trim (zuluText m)) = m.iso := by
  have iso := List.all_eq_true.1 (all_isoChars ⟨m, none⟩)
  have visible : ∀ c ∈ Timestamp.isoChars ⟨m, none⟩ ++ ['Z'], isBlank c = false := by
    intro c mem
    rcases List.mem_append.1 mem with front | last
    · exact (plain_of_isIsoChar (iso c front)).1
    · rw [List.mem_singleton.1 last]
      decide
  have utc : Offset.zero.isoChars = ['Z'].flatMap spelled := by decide
  rw [zuluText, trim_ofList visible, spellOutZulu_ofList, List.flatMap_append,
    flatMap_spelled iso, ← utc]
  simp only [Moment.iso, Timestamp.iso, Timestamp.isoChars, Timestamp.ofUtc, Option.elim_none,
    Option.elim_some, List.append_nil]

/-! ## Reading -/

/-- **A written timestamp is read as the moment that its offset, as far as it counts, makes of
it.** -/
theorem readInstant_iso (m : Moment) (o : Offset) :
    readInstant (Timestamp.iso ⟨m, some o⟩) =
      (Timestamp.toUtc ⟨m, some (counted o)⟩).mapError .timestamp := by
  rw [readInstant, spelled_iso, read?_isoChars]
  rfl

theorem toUtc_counted_zero (m : Moment) :
    Timestamp.toUtc ⟨m, some (counted .zero)⟩ = .ok m :=
  Timestamp.toUtc_ofUtc m

theorem readInstant_moment (m : Moment) : readInstant m.iso = .ok m := by
  rw [Moment.iso, Timestamp.ofUtc, readInstant_iso, toUtc_counted_zero]
  rfl

theorem readInstant_zuluText (m : Moment) : readInstant (zuluText m) = .ok m := by
  rw [readInstant, spelled_zulu, Moment.iso, Timestamp.ofUtc, read?_isoChars]
  show (Timestamp.toUtc ⟨m, some (counted .zero)⟩).mapError Failure.timestamp = .ok m
  rw [toUtc_counted_zero]
  rfl

/-- A timestamp is read as its moment, unless its offset is less than a second. -/
theorem readInstant_iso_iff {t : Timestamp} {o : Offset} {m : Moment} (known : t.offset = some o)
    (moment : t.toUtc = .ok m) :
    readInstant t.iso = .ok m ↔ o.micros = 0 ∨ microsPerSecond ≤ o.micros.natAbs := by
  obtain ⟨wall, _⟩ := t
  cases known
  rw [readInstant_iso]
  have instant : (wall.micros : Int) - o.micros = m.micros := Timestamp.instant_of_toUtc moment
  by_cases small : o.micros.natAbs < microsPerSecond
  · rw [counted, if_pos small]
    show (Timestamp.toUtc (.ofUtc wall)).mapError Failure.timestamp = .ok m ↔ _
    rw [Timestamp.toUtc_ofUtc]
    constructor
    · intro same
      obtain rfl : wall = m := Except.ok.inj same
      omega
    · intro none_
      have same : wall = m := Moment.eq_of_micros (by omega)
      rw [same]
      rfl
  · rw [counted, if_neg small, moment]
    exact iff_of_true rfl (.inr (Nat.le_of_not_lt small))

/-! ## What is printed -/

/-- The moment that a column holds, if it is a column for moments. -/
def momentIn : (kind : Kind) → kind.Value → Option Moment
  | .moment, value => some value
  | .optionalMoment, value => value
  | _, _ => none

/-- The moment of a column is printed with its row. -/
theorem mem_toJson_moment {e : Entity} {stored : Stored e} {column : e.Column} {m : Moment}
    (holds : momentIn (e.kind column) (stored.row column) = some m) :
    ∃ members, stored.toJson = .object members ∧
      (e.schema.name column, .text m.iso) ∈ members := by
  refine ⟨_, rfl, List.mem_cons_of_mem _ (List.mem_map.2 ⟨column, e.schema.complete column, ?_⟩)⟩
  have shown : ∀ (kind : Kind) (value : kind.Value), momentIn kind value = some m →
      kind.toJson value = .text m.iso := by
    intro kind value holds
    cases kind with
    | moment => rw [← Option.some.inj holds]; rfl
    | optionalMoment => rw [show value = some m from holds]; rfl
    | _ => cases holds
  rw [shown _ _ holds]

/-- What is printed as a moment is read as that moment. -/
structure PrintedInstantsRead : Prop where
  /-- In UTC with a `Z`, whether the clock's distance from UTC is known or not. -/
  zulu : ∀ (t : Timestamp) (m : Moment), t.toUtc = .ok m →
    ∃ text, t.isoZulu = .ok text ∧ readInstant text = .ok m
  /-- With the offset of the clock, which has to be none or at least a second. -/
  clocks : ∀ (t : Timestamp) (o : Offset) (m : Moment), t.offset = some o → t.toUtc = .ok m →
    (readInstant t.iso = .ok m ↔ o.micros = 0 ∨ microsPerSecond ≤ o.micros.natAbs)
  /-- In the column of a row, as an option that names a moment. -/
  rows : ∀ {e : Entity} (stored : Stored e) (column : e.Column) (m : Moment),
    momentIn (e.kind column) (stored.row column) = some m →
      ∃ members text, stored.toJson = .object members ∧
        (e.schema.name column, .text text) ∈ members ∧ readInstant text = .ok m ∧
          ∀ spec : Spec, spec.kind = .instant → spec.read text = .ok (.instant m)

/-- **What the ledger prints can be given to it.** A moment is read back from its text with a `Z`,
from its text in a row, and from the text of any clock that showed it unless the clock's offset is
less than a second without being none. -/
theorem printed_instants_read : PrintedInstantsRead where
  zulu t m moment := by
    refine ⟨zuluText m, ?_, readInstant_zuluText m⟩
    rw [Timestamp.isoZulu, moment]
    rfl
  clocks _ _ _ known moment := readInstant_iso_iff known moment
  rows stored column m holds := by
    obtain ⟨members, printed, mem⟩ := mem_toJson_moment holds
    refine ⟨members, m.iso, printed, mem, readInstant_moment m, fun spec names => ?_⟩
    simp only [Spec.read, names, readInstant_moment]

/-- A clock that is some hours ahead of UTC, by a fraction of a second too, shows the new year. -/
def newYearAhead : Timestamp where
  wall := ⟨739616 * microsPerDay, by decide⟩
  offset := some ⟨(5 * 3600 + 30 * 60 + 15) * microsPerSecond + 250000, by decide⟩

/-- In UTC it is still the old year. -/
theorem newYearAhead_read :
    newYearAhead.iso = "2026-01-01T00:00:00+05:30:15.250000" ∧
      newYearAhead.isoZulu = .ok "2025-12-31T18:29:44.750000Z" ∧
      ∃ m, newYearAhead.toUtc = .ok m ∧ readInstant newYearAhead.iso = .ok m ∧
        ∃ text, newYearAhead.isoZulu = .ok text ∧ readInstant text = .ok m := by
  have moment : newYearAhead.toUtc =
      .ok ⟨739616 * microsPerDay - ((5 * 3600 + 30 * 60 + 15) * microsPerSecond + 250000),
        by decide⟩ := by
    decide
  refine ⟨by decide +kernel, by decide +kernel, _, moment, ?_, ?_⟩
  · exact (printed_instants_read.clocks _ _ _ rfl moment).2 (.inr (by decide))
  · exact printed_instants_read.zulu _ _ moment

/-- A clock that is half a second ahead of UTC shows the new year. -/
def halfSecondAhead : Timestamp where
  wall := ⟨739616 * microsPerDay, by decide⟩
  offset := some ⟨500000, by decide⟩

/-- Its offset is printed, but not read. -/
theorem halfSecondAhead_misread :
    halfSecondAhead.iso = "2026-01-01T00:00:00+00:00:00.500000" ∧
      ∃ m, halfSecondAhead.toUtc = .ok m ∧ readInstant halfSecondAhead.iso ≠ .ok m := by
  have moment : halfSecondAhead.toUtc = .ok ⟨739616 * microsPerDay - 500000, by decide⟩ := by
    decide
  refine ⟨by decide +kernel, _, moment, ?_⟩
  rw [ne_eq, readInstant_iso_iff rfl moment]
  decide

end FarmLedger.Command
