/-
# FarmLedger.Time.IsoReader — timestamps from texts

Reads the forms of ISO 8601: a date, then, after any one character, a time of the day, then a
distance from UTC. The date is `YYYY-MM-DD`, `YYYYMMDD`, or a week `YYYY-Www-D`, `YYYYWwwD`, where
the day of the week may be missing. The time has hours, then minutes, then seconds, with colons
between them or without, then a point or a comma and a fraction of which six digits count. The
distance is `Z` or a sign and a time.

Where a week is followed by a separator, the place of the separator is not certain; `dateLength`
says how it is found. After the last two digits before a distance one stray character is passed
over. A distance below a second counts as none.

Texts are read by their UTF-8 bytes, since only ASCII characters can be part of a timestamp. The
byte 0 ends what is read of a time.
-/
import FarmLedger.Number.Digits
import FarmLedger.Time.Calendar
import FarmLedger.Time.Timestamp

namespace FarmLedger.Time.IsoReader

open FarmLedger.Number

/-- The bytes of a text, each as a character. -/
def bytesOf (text : String) : List Char :=
  text.toUTF8.toList.map fun byte => Char.ofNat byte.toNat

/-- Reads a fixed number of digits. -/
def takeNumber (count : Nat) (chars : List Char) : Option (Nat × List Char) :=
  let digits := chars.take count
  if digits.length = count ∧ digits.all Char.isDigit then some (ofDigits digits, chars.drop count)
  else none

/-- The length of the date at the beginning. All dates are told apart by their fifth and sixth
character. After `YYYY-Www` a hyphen and two characters of which the second is a digit are taken
for a separator and an hour; after `YYYYWww` the digits come in pairs unless the first of them is
the day of the week. -/
def dateLength (chars : List Char) : Nat :=
  let at? (c : Char) (i : Nat) : Bool := chars[i]? == some c
  if chars.length = 7 then 7
  else if at? '-' 4 then
    if at? 'W' 5 then
      if at? '-' 8 then
        if (chars[10]?).any Char.isDigit then 8 else 10
      else 8
    else 10
  else if at? 'W' 4 then
    let digitsEnd := 7 + ((chars.drop 7).takeWhile Char.isDigit).length
    if digitsEnd < 9 then digitsEnd else if digitsEnd % 2 = 0 then 7 else 8
  else 8

def takeChar (c : Char) : List Char → Option (List Char)
  | [] => none
  | d :: rest => if d = c then some rest else none

/-- Reads a date that takes up the first `length` characters. -/
def readDate (length : Nat) (chars : List Char) : Option Date := do
  let (year, rest) ← takeNumber 4 chars
  let extended := rest.head? == some '-'
  let rest := if extended then rest.drop 1 else rest
  if rest.head? == some 'W' then
    let (week, rest) ← takeNumber 2 (rest.drop 1)
    if chars.length - rest.length < length then
      let rest ← if extended then takeChar '-' rest else some rest
      let (day, _) ← takeNumber 1 rest
      Date.ofWeek? year week day
    else Date.ofWeek? year week 1
  else
    let (month, rest) ← takeNumber 2 rest
    let rest ← if extended then takeChar '-' rest else some rest
    let (day, rest) ← takeNumber 2 rest
    if chars.length - rest.length = length then some ⟨year, month, day⟩ else none

/-- What comes after the whole hours, minutes and seconds. -/
inductive Tail
  /-- The time is over; the flag tells whether a stray character was passed over. -/
  | ended (stray : Bool)
  | fraction (chars : List Char)

/-- Something is left that is not the byte 0. -/
def isStray (chars : List Char) : Bool :=
  chars.head?.any (· ≠ '\x00')

/-- Reads up to `left` numbers of two digits. Whether colons stand between them is decided after
the first one. -/
def readFields : (left : Nat) → (colons? : Option Bool) → List Char → Option (List Nat × Tail)
  | 0, _, chars => some ([], .fraction chars)
  | left + 1, colons?, chars => do
    let (value, rest) ← takeNumber 2 chars
    match rest with
    | [] => some ([value], .ended false)
    | [c] => some ([value], .ended (isStray [c]))
    | c :: more =>
      let colons := colons?.getD (c == ':')
      if colons && c == ':' then
        let (values, tail) ← readFields left (some colons) more
        some (value :: values, tail)
      else if c == '.' || c == ',' then some ([value], .fraction more)
      else if colons then none
      else
        let (values, tail) ← readFields left (some colons) rest
        some (value :: values, tail)

/-- A time as it is read: hours, minutes, seconds and microseconds, and whether anything was left
over. -/
structure Clock where
  hour : Nat
  minute : Nat
  second : Nat
  micros : Nat
  stray : Bool

/-- Reads a fraction of a second: at most six digits count, further ones are passed over. -/
def readFraction (chars : List Char) : Option (Nat × Bool) := do
  let count := min 6 chars.length
  let (value, rest) ← takeNumber count chars
  some (value * Nat.pow 10 (6 - count), isStray (rest.dropWhile Char.isDigit))

def readClock (chars : List Char) : Option Clock := do
  let (values, tail) ← readFields 3 none chars
  let (micros, stray) ← match tail with
    | .ended stray => some (0, stray)
    | .fraction rest => readFraction rest
  some ⟨values[0]?.getD 0, values[1]?.getD 0, values[2]?.getD 0, micros, stray⟩

/-- Reads a distance from UTC without its sign. -/
def readOffset (negative : Bool) (chars : List Char) : Option Offset := do
  let clock ← readClock chars
  let seconds := (clock.hour * 60 + clock.minute) * 60 + clock.second
  if clock.stray then none
  else if seconds = 0 then some .zero
  else
    let micros : Int := (seconds * microsPerSecond + clock.micros : Nat)
    Offset.ofMicros? (if negative then -micros else micros)

/-- A character that begins a distance from UTC. -/
def beginsOffset (c : Char) : Bool :=
  c == '+' || c == '-' || c == 'Z'

/-- Reads a time and the distance from UTC after it. -/
def readTime (chars : List Char) : Option (Clock × Option Offset) := do
  let clock ← readClock (chars.takeWhile (!beginsOffset ·))
  match chars.dropWhile (!beginsOffset ·) with
  | [] => if clock.stray then none else some (clock, none)
  | mark :: rest =>
    if mark = 'Z' then
      if isStray rest then none else some (clock, some .zero)
    else
      let offset ← readOffset (mark == '-') rest
      some (clock, some offset)

/-- The characters after the first one, by the length that the first byte tells. -/
def dropSeparator : List Char → List Char
  | [] => []
  | c :: rest =>
    if c.toNat < 0x80 then rest
    else if c.toNat / 16 = 0xE then rest.drop 2
    else if c.toNat / 16 = 0xF then rest.drop 3
    else rest.drop 1

def read? (text : String) : Option Timestamp := do
  let chars := bytesOf text
  let length := dateLength chars
  let date ← readDate length chars
  if chars.length ≤ length then
    let wall ← Moment.ofParts? date 0 0 0 0
    some ⟨wall, none⟩
  else
    let (clock, offset) ← readTime (dropSeparator (chars.drop length))
    let wall ← Moment.ofParts? date clock.hour clock.minute clock.second clock.micros
    some ⟨wall, offset⟩

end FarmLedger.Time.IsoReader
