/-
# FarmLedger.Text.Parts — what a text is trimmed of and cut at

`chunks` cuts a text at every occurrence of a mark. There is one chunk more than there are marks,
so a text without the mark is one chunk, and chunks may be empty. `occurs` looks for a part in a
text without cutting it.

The white space characters are those with the Unicode property White_Space, together with the
four information separators U+001C to U+001F. `trim` removes them from both ends of a text, and
`isBlankText` says that nothing else is in it.

A second, smaller class stands around numerals: the information separators do not count there
(`isNumeralSpace`).
-/
namespace FarmLedger.Text

/-- Is the code point in one of the closed ranges? -/
def inRanges (ranges : List (Nat × Nat)) (code : Nat) : Bool :=
  ranges.any fun range => range.1 ≤ code && code ≤ range.2

def blankRanges : List (Nat × Nat) := [
  (0x0009, 0x000D), (0x001C, 0x0020), (0x0085, 0x0085), (0x00A0, 0x00A0), (0x1680, 0x1680),
  (0x2000, 0x200A), (0x2028, 0x2029), (0x202F, 0x202F), (0x205F, 0x205F), (0x3000, 0x3000)]

def isBlank (c : Char) : Bool :=
  inRanges blankRanges c.toNat

/-- White space that may stand around a numeral. -/
def isNumeralSpace (c : Char) : Bool :=
  isBlank c && !(0x1C ≤ c.toNat && c.toNat ≤ 0x1F)

/-- The characters without those at both ends that are in the class. -/
def trimBy (skip : Char → Bool) (chars : List Char) : List Char :=
  ((chars.dropWhile skip).reverse.dropWhile skip).reverse

def trim (text : String) : String :=
  String.ofList (trimBy isBlank text.toList)

/-- A text that holds white space only, or nothing. -/
def isBlankText (text : String) : Bool :=
  text.toList.all isBlank

/-- The parts of a text between the marks. -/
def chunks (mark : Char) : List Char → List (List Char)
  | [] => [[]]
  | c :: rest =>
    if c = mark then [] :: chunks mark rest
    else
      match chunks mark rest with
      | [] => [[c]]
      | chunk :: others => (c :: chunk) :: others

/-- The part stands somewhere in the text. -/
def occurs (part : List Char) : List Char → Bool
  | [] => part.isEmpty
  | c :: rest => part.isPrefixOf (c :: rest) || occurs part rest

end FarmLedger.Text
