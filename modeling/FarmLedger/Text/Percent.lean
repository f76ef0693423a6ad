/-
# FarmLedger.Text.Percent — texts with percent signs for bytes

In an address a percent sign with two hexadecimal digits stands for a byte, and bytes in a row
stand for the characters that they encode. A percent sign without two digits stands for itself.

Writing goes the other way: a character that is a letter, a digit, one of `_.-~`, or one of those
that are kept is written as it is, any other one byte by byte.
-/
import FarmLedger.Text.Utf8

namespace FarmLedger.Text

def hexValue? (c : Char) : Option Nat :=
  if c.isDigit then some (c.toNat - 0x30)
  else if 'a' ≤ c && c ≤ 'f' then some (c.toNat - 0x57)
  else if 'A' ≤ c && c ≤ 'F' then some (c.toNat - 0x37)
  else none

/-- Reads a text on. Characters beyond ASCII belong to no row of bytes. -/
def readPercents : Option Pending → List Char → List Char
  | pending, [] => Pending.finish pending
  | pending, '%' :: a :: b :: rest =>
    match hexValue? a, hexValue? b with
    | some high, some low =>
      let (complete, next) := Pending.take pending (16 * high + low)
      complete ++ readPercents next rest
    | _, _ =>
      let (complete, next) := Pending.take pending '%'.toNat
      complete ++ readPercents next (a :: b :: rest)
  | pending, c :: rest =>
    if c.toNat < 0x80 then
      let (complete, next) := Pending.take pending c.toNat
      complete ++ readPercents next rest
    else Pending.finish pending ++ c :: readPercents none rest

/-- The text that is meant. -/
def fromPercents (chars : List Char) : String :=
  String.ofList (readPercents none chars)

/-- The upper case hexadecimal digit of a number below sixteen. -/
def upperHexDigit (n : Nat) : Char :=
  Char.ofNat (if n < 10 then 0x30 + n else 0x37 + n)

def percentByte (byte : UInt8) : List Char :=
  ['%', upperHexDigit (byte.toNat / 16), upperHexDigit (byte.toNat % 16)]

/-- A character as it is written, where some more are kept. -/
def percentChar (kept : List Char) (c : Char) : List Char :=
  if (c.toNat < 0x80 && c.isAlphanum) || ['_', '.', '-', '~'].contains c || kept.contains c then [c]
  else (String.utf8EncodeChar c).flatMap percentByte

/-- The text as it is written, where some more characters are kept. -/
def toPercents (kept : List Char) (text : String) : String :=
  String.ofList (text.toList.flatMap (percentChar kept))

/-- The text as it is written in a list of options, where a plus sign stands for a blank. -/
def toFormPercents (text : String) : String :=
  String.ofList ((text.toList.flatMap (percentChar [' '])).map fun c => if c = ' ' then '+' else c)

/-- The text that a part of a list of options means. -/
def fromFormPercents (chars : List Char) : String :=
  fromPercents (chars.map fun c => if c = '+' then ' ' else c)

end FarmLedger.Text
