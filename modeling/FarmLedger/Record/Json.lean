/-
# FarmLedger.Record.Json — written records

Records are written as JSON on one line: members by ascending name, a comma and a blank between
items, a colon and a blank after a name. Texts are ASCII, other characters stand as escapes of
their UTF-16 units. Numbers that are no finite doubles are written as words.
-/
import FarmLedger.Number.Shortest
import FarmLedger.Text.Quoted

namespace FarmLedger.Record

open FarmLedger.Number FarmLedger.Text

/-- A record or a part of one. -/
inductive Json
  | null
  | flag (value : Bool)
  | whole (value : Int)
  | real (value : Float)
  | text (value : String)
  | list (items : List Json)
  | object (members : List (String × Json))

namespace Json

def unitEscape (code : Nat) : List Char :=
  '\\' :: 'u' :: hexDigits 4 code

/-- A character as it stands in a written text. -/
def escapeChar (c : Char) : List Char :=
  if c = doubleQuote ∨ c = '\\' then ['\\', c]
  else if c = '\n' then ['\\', 'n']
  else if c = '\r' then ['\\', 'r']
  else if c = '\t' then ['\\', 't']
  else if c = '\x0c' then ['\\', 'f']
  else if c = '\x08' then ['\\', 'b']
  else if 0x20 ≤ c.toNat ∧ c.toNat < 0x7F then [c]
  else if c.toNat < 0x10000 then unitEscape c.toNat
  else
    let beyond := c.toNat - 0x10000
    unitEscape (0xD800 + beyond / 0x400) ++ unitEscape (0xDC00 + beyond % 0x400)

def quoted (text : String) : String :=
  String.ofList (doubleQuote :: text.toList.flatMap escapeChar ++ [doubleQuote])

def render : Json → String
  | null => "null"
  | flag value => if value then "true" else "false"
  | whole value => toString value
  | real value => RealFormat.record.render value
  | text value => quoted value
  | list items => "[" ++ ", ".intercalate (items.attach.map fun ⟨item, _⟩ => item.render) ++ "]"
  | object members =>
    let written := members.attach.map fun ⟨member, _⟩ => (member.1, member.2.render)
    let sorted := written.mergeSort fun a b => a.1 ≤ b.1
    "\x7b" ++ ", ".intercalate (sorted.map fun member => quoted member.1 ++ ": " ++ member.2)
      ++ "\x7d"
termination_by json => sizeOf json
decreasing_by
  · have := List.sizeOf_lt_of_mem ‹item ∈ items›
    simp; omega
  · rename_i mem
    have := List.sizeOf_lt_of_mem mem
    cases member
    simp at this ⊢; omega

def ofOption {α : Type} (f : α → Json) : Option α → Json
  | none => null
  | some value => f value

end Json

end FarmLedger.Record
