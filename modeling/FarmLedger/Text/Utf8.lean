/-
# FarmLedger.Text.Utf8 — characters from bytes that may be damaged

A character is one to four bytes: a leading byte says how many bytes follow and in which range the
first of them lies, and each further one lies between 0x80 and 0xBF. Bytes arrive one at a time
(`Pending.take`). Where they break off or do not fit, one replacement character stands for the
bytes so far, and the byte that does not fit starts afresh.
-/
namespace FarmLedger.Text

/-- The character that stands for damaged bytes. -/
def replacement : Char := '\uFFFD'

/-- A character whose bytes are not all there. -/
structure Pending where
  /-- How many bytes are missing. -/
  missing : Nat
  /-- What the bytes so far add up to. -/
  value : Nat
  /-- The range of the next byte. -/
  low : Nat
  high : Nat

namespace Pending

/-- Takes the first byte of a character: what it completes, and what is pending after it. -/
def start (byte : Nat) : List Char × Option Pending :=
  if byte < 0x80 then ([Char.ofNat byte], none)
  else if byte < 0xC2 then ([replacement], none)
  else if byte < 0xE0 then ([], some ⟨1, byte - 0xC0, 0x80, 0xBF⟩)
  else if byte < 0xF0 then
    let low := if byte = 0xE0 then 0xA0 else 0x80
    let high := if byte = 0xED then 0x9F else 0xBF
    ([], some ⟨2, byte - 0xE0, low, high⟩)
  else if byte < 0xF5 then
    let low := if byte = 0xF0 then 0x90 else 0x80
    let high := if byte = 0xF4 then 0x8F else 0xBF
    ([], some ⟨3, byte - 0xF0, low, high⟩)
  else ([replacement], none)

def take (pending : Option Pending) (byte : Nat) : List Char × Option Pending :=
  match pending with
  | none => start byte
  | some p =>
    if p.low ≤ byte && byte ≤ p.high then
      let value := 0x40 * p.value + (byte - 0x80)
      if p.missing = 1 then ([Char.ofNat value], none)
      else ([], some ⟨p.missing - 1, value, 0x80, 0xBF⟩)
    else
      let (complete, next) := start byte
      (replacement :: complete, next)

/-- What is left when no more bytes come. -/
def finish (pending : Option Pending) : List Char :=
  if pending.isSome then [replacement] else []

end Pending

end FarmLedger.Text
