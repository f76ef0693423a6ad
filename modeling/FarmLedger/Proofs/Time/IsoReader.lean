/-
# FarmLedger.Proofs.Time.IsoReader — written timestamps are read back

The reader takes many forms; what `Timestamp.iso` writes is one of them, and each part of the
reader finds the part of the text that was written for it: the date its ten characters
(`readDate_isoChars`), the time its two or three fields and the fraction (`readClock_timeChars`),
and the distance from UTC everything after the first sign (`readOffset_magnitudeChars`). A distance
below a second is written, but the reader counts it as none; so the clock is read back with the
offset that counts (`counted`), which is the offset itself for all others
(`read?_isoChars`).

Written timestamps consist of few characters, all of them ASCII (`isIsoChar`), which is why the
bytes of the text are its characters and nothing is trimmed.
-/
import FarmLedger.Proofs.Number.Digits
import FarmLedger.Proofs.Time.Calendar
import FarmLedger.Time.IsoReader
import FarmLedger.Time.IsoText

namespace FarmLedger.Time.IsoReader

open FarmLedger.Number

/-! ## Bytes -/

theorem toList_loop (bytes : ByteArray) (i : Nat) (found : List UInt8) :
    ByteArray.toList.loop bytes i found = found.reverse ++ bytes.data.toList.drop i := by
  fun_induction ByteArray.toList.loop bytes i found with
  | case1 i found more ih =>
    have inside : i < bytes.data.toList.length := more
    rw [ih, List.drop_eq_getElem_cons inside]
    simp [ByteArray.get!, more]
  | case2 i found beyond =>
    rw [List.drop_eq_nil_of_le (Nat.le_of_not_lt beyond), List.append_nil]

theorem utf8EncodeChar_ascii {c : Char} (ascii : c.toNat < 128) :
    String.utf8EncodeChar c = [c.val.toUInt8] :=
  String.utf8EncodeChar_eq_singleton (Char.utf8Size_eq_one_iff.2 (Nat.le_of_lt_succ ascii))

/-- ASCII characters are their bytes. -/
theorem bytesOf_ofList {chars : List Char} (ascii : ∀ c ∈ chars, c.toNat < 128) :
    bytesOf (String.ofList chars) = chars := by
  have bytes : (String.ofList chars).toUTF8.toList = chars.flatMap String.utf8EncodeChar := by
    rw [ByteArray.toList, toList_loop, String.toUTF8, String.toByteArray_ofList, List.utf8Encode,
      List.toList_data_toByteArray]
    rfl
  rw [bytesOf, bytes]
  clear bytes
  induction chars with
  | nil => rfl
  | cons c chars ih =>
    have small : c.toNat < 128 := ascii c List.mem_cons_self
    have same : Char.ofNat c.val.toUInt8.toNat = c := by
      have : c.val.toUInt8.toNat = c.toNat := Nat.mod_eq_of_lt (Nat.lt_trans small (by decide))
      rw [this, Char.ofNat_toNat]
    rw [List.flatMap_cons, utf8EncodeChar_ascii small, List.singleton_append, List.map_cons, same,
      ih fun other mem => ascii other (List.mem_cons_of_mem _ mem)]

/-! ## Digits -/

variable {rest : List Char}

theorem takeNumber_fixedDigits {count n : Nat} (short : n < 10 ^ count) :
    takeNumber count (fixedDigits count n ++ rest) = some (n, rest) := by
  have front : (fixedDigits count n ++ rest).take count = fixedDigits count n := by
    rw [List.take_left' (length_fixedDigits count n)]
  have digits : (fixedDigits count n).all Char.isDigit = true :=
    List.all_eq_true.2 fun c mem => isDigit_of_mem_fixedDigits mem
  unfold takeNumber
  simp only [front, length_fixedDigits, digits, and_self, if_true, ofDigits_fixedDigits short,
    List.drop_left' (length_fixedDigits count n)]

theorem fixedDigits_ne_nil (width n : Nat) : fixedDigits (width + 1) n ≠ [] := by
  unfold fixedDigits
  exact List.append_ne_nil_of_right_ne_nil _ (List.cons_ne_nil _ _)

/-! ## The time -/

section Time

variable {left hour minute second micros n : Nat} {colons? : Option Bool} {values : List Nat}
  {tail : Tail}

/-- After two digits and a colon follows another field. -/
theorem readFields_colon (short : n < 10 ^ 2) (colons : colons?.getD true = true)
    (some_ : rest ≠ []) (others : readFields left (some true) rest = some (values, tail)) :
    readFields (left + 1) colons? (fixedDigits 2 n ++ ':' :: rest) =
      some (n :: values, tail) := by
  obtain ⟨c, more, rfl⟩ := List.exists_cons_of_ne_nil some_
  rw [readFields, takeNumber_fixedDigits short]
  simp [colons, others]

theorem readFields_end (short : n < 10 ^ 2) :
    readFields (left + 1) colons? (fixedDigits 2 n) = some ([n], .ended false) := by
  rw [readFields, ← List.append_nil (fixedDigits 2 n), takeNumber_fixedDigits short]
  rfl

/-- After a point the fields are over. -/
theorem readFields_point (short : n < 10 ^ 2) (some_ : rest ≠ []) :
    readFields (left + 1) (some true) (fixedDigits 2 n ++ '.' :: rest) =
      some ([n], .fraction rest) := by
  obtain ⟨c, more, rfl⟩ := List.exists_cons_of_ne_nil some_
  rw [readFields, takeNumber_fixedDigits short]
  rfl

theorem readFraction_fixedDigits (short : micros < 10 ^ 6) :
    readFraction (fixedDigits 6 micros) = some (micros, false) := by
  have taken : takeNumber 6 (fixedDigits 6 micros) = some (micros, []) := by
    rw [← takeNumber_fixedDigits short, List.append_nil]
  simp only [readFraction, length_fixedDigits, Nat.min_self, taken, Option.bind_eq_bind,
    Option.bind_some, Nat.sub_self]
  rw [show Nat.pow 10 0 = 1 from rfl, Nat.mul_one]
  rfl

def hourChars (hour minute : Nat) : List Char :=
  fixedDigits 2 hour ++ ':' :: fixedDigits 2 minute

/-- Hours, minutes and seconds with their fraction. -/
def timeChars (hour minute second micros : Nat) : List Char :=
  hourChars hour minute ++ ':' :: fixedDigits 2 second ++ fractionChars micros

theorem readClock_hourChars (hours : hour < 10 ^ 2) (minutes : minute < 10 ^ 2) :
    readClock (hourChars hour minute) = some ⟨hour, minute, 0, 0, false⟩ := by
  have fields : readFields 3 none (hourChars hour minute) = some ([hour, minute], .ended false) :=
    readFields_colon hours rfl (fixedDigits_ne_nil _ _)
      (readFields_end minutes)
  rw [readClock, fields]
  rfl

theorem readFields_second (seconds : second < 10 ^ 2) :
    readFields 1 (some true) (fixedDigits 2 second ++ fractionChars micros) =
      some ([second], if micros = 0 then .ended false else .fraction (fixedDigits 6 micros)) := by
  unfold fractionChars
  split
  · rw [List.append_nil]
    exact readFields_end seconds
  · exact readFields_point seconds (fixedDigits_ne_nil _ _)

theorem readClock_timeChars (hours : hour < 10 ^ 2) (minutes : minute < 10 ^ 2)
    (seconds : second < 10 ^ 2) (fraction : micros < 10 ^ 6) :
    readClock (timeChars hour minute second micros) =
      some ⟨hour, minute, second, micros, false⟩ := by
  have fields : readFields 3 none (timeChars hour minute second micros) =
      some ([hour, minute, second],
        if micros = 0 then .ended false else .fraction (fixedDigits 6 micros)) := by
    unfold timeChars hourChars
    simp only [List.append_assoc, List.cons_append]
    exact readFields_colon hours rfl (List.append_ne_nil_of_left_ne_nil (fixedDigits_ne_nil _ _) _)
      (readFields_colon minutes rfl (List.append_ne_nil_of_left_ne_nil (fixedDigits_ne_nil _ _) _)
        (readFields_second seconds))
  rw [readClock, fields]
  by_cases none_ : micros = 0
  · rw [if_pos none_, none_]
    rfl
  · rw [if_neg none_]
    simp only [Option.bind_eq_bind, Option.bind_some, readFraction_fixedDigits fraction]
    rfl

end Time

/-! ## The distance from UTC -/

/-- The offset as it counts for a reader: one below a second is none. -/
def counted (o : Offset) : Offset :=
  if o.micros.natAbs < microsPerSecond then .zero else o

/-- The whole seconds of an offset, whatever its sign is. -/
def secondsOf (o : Offset) : Nat :=
  o.micros.natAbs / microsPerSecond

/-- An offset without its sign. -/
def magnitudeChars (o : Offset) : List Char :=
  let micros := o.micros.natAbs % microsPerSecond
  if secondsOf o % 60 = 0 ∧ micros = 0 then
    hourChars (secondsOf o / 3600) (secondsOf o / 60 % 60)
  else timeChars (secondsOf o / 3600) (secondsOf o / 60 % 60) (secondsOf o % 60) micros

theorem isoChars_offset (o : Offset) :
    o.isoChars = (if o.micros < 0 then '-' else '+') :: magnitudeChars o :=
  (apply_ite ((if o.micros < 0 then '-' else '+') :: ·) _ _ _).symm

theorem readClock_magnitudeChars (o : Offset) :
    readClock (magnitudeChars o) = some ⟨secondsOf o / 3600, secondsOf o / 60 % 60,
      secondsOf o % 60, o.micros.natAbs % microsPerSecond, false⟩ := by
  have short : o.micros.natAbs < 86400 * 1000000 := o.isShort
  have seconds : secondsOf o < 86400 := Nat.div_lt_of_lt_mul (by rwa [Nat.mul_comm])
  have hours : secondsOf o / 3600 < 10 ^ 2 := by omega
  have minutes : secondsOf o / 60 % 60 < 10 ^ 2 := by omega
  unfold magnitudeChars
  simp only
  split
  · next whole =>
    rw [readClock_hourChars hours minutes, whole.1, whole.2]
  · exact readClock_timeChars hours minutes (by omega) (Nat.mod_lt _ (by decide))

/-- **An offset is read back as it counts.** -/
theorem readOffset_magnitudeChars (o : Offset) :
    readOffset (decide (o.micros < 0)) (magnitudeChars o) = some (counted o) := by
  have parts : (secondsOf o / 3600 * 60 + secondsOf o / 60 % 60) * 60 + secondsOf o % 60 =
      secondsOf o := by omega
  have size : secondsOf o * microsPerSecond + o.micros.natAbs % microsPerSecond =
      o.micros.natAbs := Nat.div_add_mod' _ _
  have signed : (if o.micros < 0 then -(o.micros.natAbs : Int) else o.micros.natAbs) =
      o.micros := by
    split <;> omega
  unfold readOffset
  rw [readClock_magnitudeChars]
  simp only [Option.bind_eq_bind, Option.bind_some, parts, Bool.false_eq_true, if_false, size,
    decide_eq_true_eq, signed, counted]
  have small : secondsOf o = 0 ↔ o.micros.natAbs < microsPerSecond :=
    Nat.div_eq_zero_iff_lt (by decide)
  by_cases none_ : secondsOf o = 0
  · rw [if_pos none_, if_pos (small.1 none_)]
  · rw [if_neg none_, if_neg (mt small.2 none_)]
    exact dif_pos o.isShort

/-! ## Characters -/

/-- The characters of written timestamps. -/
def isIsoChar (c : Char) : Bool :=
  c.isDigit || c == '-' || c == ':' || c == '.' || c == 'T' || c == '+'

theorem toNat_lt_of_isIsoChar {c : Char} (iso : isIsoChar c = true) : c.toNat < 128 := by
  simp only [isIsoChar, Bool.or_eq_true, beq_iff_eq] at iso
  rcases iso with ((((digit | rfl) | rfl) | rfl) | rfl) | rfl
  · simp only [Char.isDigit, Bool.and_eq_true, decide_eq_true_eq] at digit
    exact Nat.lt_of_le_of_lt digit.2 (by decide)
  all_goals decide

section All

variable {p : Char → Bool} (digits : ∀ c : Char, c.isDigit = true → p c = true)

include digits

theorem all_fixedDigits (width n : Nat) : (fixedDigits width n).all p = true :=
  List.all_eq_true.2 fun c mem => digits c (isDigit_of_mem_fixedDigits mem)

theorem all_hourChars (colon : p ':' = true) (hour minute : Nat) :
    (hourChars hour minute).all p = true := by
  simp only [hourChars, List.all_append, List.all_cons, all_fixedDigits digits, colon,
    Bool.and_self]

theorem all_timeChars (colon : p ':' = true) (point : p '.' = true)
    (hour minute second micros : Nat) : (timeChars hour minute second micros).all p = true := by
  have fraction : (fractionChars micros).all p = true := by
    unfold fractionChars
    split
    · rfl
    · simp only [List.all_cons, all_fixedDigits digits, point, Bool.and_self]
  simp only [timeChars, List.all_append, List.all_cons, all_hourChars digits colon,
    all_fixedDigits digits, fraction, colon, Bool.and_self]

end All

theorem isIsoChar_of_isDigit (c : Char) (digit : c.isDigit = true) : isIsoChar c = true := by
  simp only [isIsoChar, digit, Bool.true_or]

theorem all_isoChars (t : Timestamp) : t.isoChars.all isIsoChar = true := by
  have digits := isIsoChar_of_isDigit
  have date : t.wall.date.isoChars.all isIsoChar = true := by
    simp only [Date.isoChars, List.all_append, List.all_cons, all_fixedDigits digits]
    rfl
  have clock : t.wall.clockChars.all isIsoChar = true := all_timeChars digits rfl rfl _ _ _ _
  have offset : (t.offset.elim [] Offset.isoChars).all isIsoChar = true := by
    cases t.offset with
    | none => rfl
    | some o =>
      have magnitude : (magnitudeChars o).all isIsoChar = true := by
        unfold magnitudeChars
        simp only
        split
        · exact all_hourChars digits rfl _ _
        · exact all_timeChars digits rfl rfl _ _ _ _
      rw [Option.elim_some, isoChars_offset, List.all_cons, magnitude]
      split <;> rfl
  simp only [Timestamp.isoChars, List.all_append, List.all_cons, date, clock, offset]
  rfl

/-! ## The date -/

theorem ne_of_isDigit {c d : Char} (digit : c.isDigit = true) (other : d.isDigit = false) :
    c ≠ d := by
  rintro rfl
  rw [digit] at other
  cases other

/-- No week begins with a digit. -/
theorem head?_fixedDigits (n : Nat) : ((fixedDigits 2 n ++ rest).head? == some 'W') = false := by
  have digit := (digitChar_lt_ten _ (Nat.mod_lt (n / 10) (by decide : 0 < 10))).1
  exact beq_eq_false_iff_ne.2 fun same => ne_of_isDigit digit rfl (Option.some.inj same)

theorem length_isoChars (d : Date) : d.isoChars.length = 10 := by
  simp only [Date.isoChars, List.length_append, List.length_cons, length_fixedDigits]

theorem readDate_isoChars {d : Date} (valid : d.isValid = true) :
    readDate 10 (d.isoChars ++ rest) = some d := by
  obtain ⟨year, month, day⟩ := Date.short_of_isValid valid
  have length : (d.isoChars ++ rest).length = 10 + rest.length := by
    rw [List.length_append, length_isoChars]
  unfold readDate
  rw [length]
  simp only [Date.isoChars, List.append_assoc, List.cons_append, takeNumber_fixedDigits year,
    Option.bind_eq_bind, Option.bind_some, List.head?_cons, beq_self_eq_true, if_true,
    List.drop_succ_cons, List.drop_zero, head?_fixedDigits, Bool.false_eq_true, if_false,
    takeNumber_fixedDigits month, takeNumber_fixedDigits day, takeChar, Nat.add_sub_cancel]

/-- The length of a written date is found, whatever comes after it. -/
theorem dateLength_isoChars (d : Date) {c : Char} : dateLength (d.isoChars ++ c :: rest) = 10 := by
  have digit := (digitChar_lt_ten _ (Nat.mod_lt (d.month / 10) (by decide : 0 < 10))).1
  have noWeek : ((d.isoChars ++ c :: rest)[5]? == some 'W') = false :=
    beq_eq_false_iff_ne.2 fun same => ne_of_isDigit digit rfl (Option.some.inj same)
  have hyphen : ((d.isoChars ++ c :: rest)[4]? == some '-') = true := rfl
  have long : (d.isoChars ++ c :: rest).length ≠ 7 := by
    rw [List.length_append, length_isoChars]
    omega
  unfold dateLength
  simp only [hyphen, noWeek, if_neg long, if_true, Bool.false_eq_true, if_false]

/-! ## The timestamp -/

theorem not_beginsOffset_of_isDigit (c : Char) (digit : c.isDigit = true) :
    (!beginsOffset c) = true := by
  have different {d : Char} (other : d.isDigit = false) : (c == d) = false :=
    beq_eq_false_iff_ne.2 (ne_of_isDigit digit other)
  simp only [beginsOffset, different (d := '+') rfl, different (d := '-') rfl,
    different (d := 'Z') rfl]
  rfl

theorem readTime_clockChars (m : Moment) (o : Offset) :
    readTime (m.clockChars ++ o.isoChars) =
      some (⟨m.hour, m.minute, m.second, m.microsecond, false⟩, some (counted o)) := by
  have clock : readClock m.clockChars =
      some ⟨m.hour, m.minute, m.second, m.microsecond, false⟩ :=
    readClock_timeChars (Nat.lt_trans m.hour_lt (by decide)) (Nat.lt_trans m.minute_lt (by decide))
      (Nat.lt_trans m.second_lt (by decide)) m.microsecond_lt
  have before : ∀ c ∈ m.clockChars, (!beginsOffset c) = true :=
    List.all_eq_true.1 (all_timeChars not_beginsOffset_of_isDigit rfl rfl _ _ _ _)
  have sign : beginsOffset (if o.micros < 0 then '-' else '+') = true := by
    split <;> rfl
  have negative : ((if o.micros < 0 then '-' else '+') == '-') = decide (o.micros < 0) := by
    by_cases negative : o.micros < 0
    · rw [if_pos negative, decide_eq_true negative]
      rfl
    · rw [if_neg negative, decide_eq_false negative]
      rfl
  have plain : (if o.micros < 0 then '-' else '+') ≠ 'Z' := by
    split <;> decide
  rw [readTime, isoChars_offset, List.takeWhile_append_of_pos before,
    List.dropWhile_append_of_pos before, List.takeWhile_cons_of_neg (by simp [sign]),
    List.dropWhile_cons_of_neg (by simp [sign]), List.append_nil, clock]
  simp only [Option.bind_eq_bind, Option.bind_some, if_neg plain, negative,
    readOffset_magnitudeChars]

/-- **A written timestamp is read back with the offset that counts.** -/
theorem read?_isoChars (m : Moment) (o : Offset) :
    read? (Timestamp.iso ⟨m, some o⟩) = some ⟨m, some (counted o)⟩ := by
  have ascii : ∀ c ∈ Timestamp.isoChars ⟨m, some o⟩, c.toNat < 128 := fun c mem =>
    toNat_lt_of_isIsoChar (List.all_eq_true.1 (all_isoChars _) c mem)
  have parts : Timestamp.isoChars ⟨m, some o⟩ =
      m.date.isoChars ++ 'T' :: (m.clockChars ++ o.isoChars) := by
    simp [Timestamp.isoChars]
  have valid : m.date.isValid = true := Date.isValid_ofDayNumber m.day_lt
  have long : ¬ (m.date.isoChars ++ 'T' :: (m.clockChars ++ o.isoChars)).length ≤ 10 := by
    rw [List.length_append, length_isoChars, List.length_cons]
    omega
  have time : dropSeparator ((m.date.isoChars ++ 'T' :: (m.clockChars ++ o.isoChars)).drop 10) =
      m.clockChars ++ o.isoChars := by
    rw [List.drop_left' (length_isoChars _)]
    rfl
  rw [read?, Timestamp.iso, bytesOf_ofList ascii, parts]
  simp only [dateLength_isoChars, readDate_isoChars valid, Option.bind_eq_bind, Option.bind_some,
    if_neg long, time, readTime_clockChars, Moment.ofParts?_parts]

end FarmLedger.Time.IsoReader
