/-
# FarmLedger.Text.Quoted — texts in quotes

A quoted text shows what it holds on one line. The quotation mark is the apostrophe, unless the
text holds an apostrophe and no double quote. Inside, the mark in use and the backslash get a
backslash before them, tab, line feed and carriage return are written `\t`, `\n` and `\r`, and a
character that is not printable is written by its code point: `\x` and two hexadecimal digits,
`\u` and four, or `\U` and eight, whichever is the shortest that holds it.

A list of texts that may be absent is written in brackets, an absent one as `None`.
-/
import FarmLedger.Text.Printable

namespace FarmLedger.Text

def apostrophe : Char := '\x27'

def doubleQuote : Char := '\x22'

/-- The lower case hexadecimal digit of a number below sixteen. -/
def hexDigit (n : Nat) : Char :=
  Char.ofNat (if n < 10 then 0x30 + n else 0x57 + n)

/-- The last `width` hexadecimal digits of a number, the highest first. -/
def hexDigits : (width n : Nat) → List Char
  | 0, _ => []
  | width + 1, n => hexDigits width (n / 16) ++ [hexDigit (n % 16)]

/-- The mark that a text is quoted with. -/
def quoteMark (chars : List Char) : Char :=
  if chars.contains apostrophe && !chars.contains doubleQuote then doubleQuote else apostrophe

/-- A character as it stands between two marks. -/
def escapeChar (mark c : Char) : List Char :=
  if c = mark ∨ c = '\\' then ['\\', c]
  else if c = '\t' then ['\\', 't']
  else if c = '\n' then ['\\', 'n']
  else if c = '\r' then ['\\', 'r']
  else if isPrintable c then [c]
  else if c.toNat < 0x100 then '\\' :: 'x' :: hexDigits 2 c.toNat
  else if c.toNat < 0x10000 then '\\' :: 'u' :: hexDigits 4 c.toNat
  else '\\' :: 'U' :: hexDigits 8 c.toNat

def quoteChars (chars : List Char) : List Char :=
  quoteMark chars :: chars.flatMap (escapeChar (quoteMark chars)) ++ [quoteMark chars]

def quote (text : String) : String :=
  String.ofList (quoteChars text.toList)

/-- A text in quotes, or `None`. -/
def quote? : Option String → String
  | some text => quote text
  | none => "None"

/-- Items in brackets, with a comma and a blank between two of them. -/
def bracketed (items : List String) : String :=
  "[" ++ ", ".intercalate items ++ "]"

end FarmLedger.Text
