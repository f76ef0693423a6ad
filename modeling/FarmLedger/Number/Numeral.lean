/-
# FarmLedger.Number.Numeral — numbers from texts

Integers and reals as people write them in settings and arguments. White space around a numeral
does not count, digits may come from any script, and a single underscore may stand between two
digits. A real has a fraction or an exponent if it likes, or is one of the words `inf`, `infinity`
and `nan` in any case; it is rounded to the nearest double.

An integer has at most 4300 digits.

Where a number is needed a value of another kind may arrive instead of a text (`ScalarFault`): an
integer becomes the nearest double, a double is cut to its integer part, and everything that is no
number is refused by the name of its kind.
-/
import FarmLedger.Text.Parts
import FarmLedger.Text.Quoted
import FarmLedger.Number.Digits
import FarmLedger.Number.Binary64

namespace FarmLedger.Number

open FarmLedger.Text

inductive NumeralFault
  | notAnInteger (text : String)
  | tooManyDigits (count : Nat)
  | notAReal (text : String)
  deriving DecidableEq, Repr

def integerDigitLimit : Nat := 4300

/-- A text that is no integer is quoted up to its two hundredth character. -/
def NumeralFault.message : NumeralFault → String
  | .notAnInteger text =>
    "invalid literal for int() with base 10: "
      ++ String.ofList ((quoteChars text.toList).take 200)
  | .tooManyDigits count =>
    "Exceeds the limit (4300 digits) for integer string conversion: value has "
      ++ toString count ++ " digits; use sys.set_int_max_str_digits() to increase the limit"
  | .notAReal text => "could not convert string to float: " ++ quote text

/-- A digit of any script as the digit between `0` and `9`. -/
def plainDigit (c : Char) : Char :=
  match digitValue? c with
  | some value => Char.ofNat (0x30 + value)
  | none => c

/-- The characters of a numeral: no white space around it, plain digits. -/
def numeralChars (text : String) : List Char :=
  (trimBy isNumeralSpace text.toList).map plainDigit

/-- Splits off a sign; `true` for minus. -/
def splitSign : List Char → Bool × List Char
  | '-' :: rest => (true, rest)
  | '+' :: rest => (false, rest)
  | chars => (false, chars)

/-- Removes the underscores if each of them stands between two digits. The flag tells whether a
digit came just before. -/
def ungroup : (afterDigit : Bool) → List Char → Option (List Char)
  | _, [] => some []
  | afterDigit, '_' :: rest =>
    if afterDigit && (rest.head?.any Char.isDigit) then ungroup false rest else none
  | _, c :: rest => (ungroup c.isDigit rest).map (c :: ·)

/-- A digit, or an underscore that may stand between two of them. -/
def isGroupedDigit (c : Char) : Bool :=
  c.isDigit || c == '_'

/-- A sign and a row of digits. A row that is too long is refused as such, whatever comes after
it. -/
def readInteger (text : String) : Except NumeralFault Int :=
  let (negative, body) := splitSign (numeralChars text)
  match ungroup false (body.takeWhile isGroupedDigit) with
  | none => .error (.notAnInteger text)
  | some digits =>
    if integerDigitLimit < digits.length then .error (.tooManyDigits digits.length)
    else if digits.isEmpty || !(body.dropWhile isGroupedDigit).isEmpty then
      .error (.notAnInteger text)
    else .ok (if negative then -(ofDigits digits : Int) else ofDigits digits)

/-- The double nearest to `coefficient · 10 ^ exponent`. Powers that no double reaches are not
computed. -/
def ofDecimal (coefficient : Nat) (exponent : Int) : Float :=
  let size : Int := (digitsOf coefficient).length + exponent
  if coefficient = 0 ∨ size < -330 then 0.0
  else if 310 < size then infinity
  else Float.ofScientific coefficient (exponent < 0) exponent.natAbs

/-- The exponent after the mark `e`. -/
def readExponent? : List Char → Option Int
  | [] => some 0
  | mark :: rest =>
    let (negative, digits) := splitSign rest
    if mark.toLower != 'e' || digits.isEmpty || !digits.all Char.isDigit then none
    else some (if negative then -(ofDigits digits : Int) else ofDigits digits)

/-- A real without sign and without underscores. -/
def readMagnitude? (chars : List Char) : Option Float :=
  let word := chars.map Char.toLower
  if word = "inf".toList ∨ word = "infinity".toList then some infinity
  else if word = "nan".toList then some notANumber
  else
    let whole := chars.takeWhile Char.isDigit
    let afterWhole := chars.dropWhile Char.isDigit
    let pointed := afterWhole.head? == some '.'
    let fraction := if pointed then (afterWhole.drop 1).takeWhile Char.isDigit else []
    let tail := if pointed then (afterWhole.drop 1).dropWhile Char.isDigit else afterWhole
    if whole.isEmpty && fraction.isEmpty then none
    else
      (readExponent? tail).map fun exponent =>
        ofDecimal (ofDigits (whole ++ fraction)) (exponent - fraction.length)

def readReal (text : String) : Except NumeralFault Float :=
  let magnitude? := (ungroup false (numeralChars text)).bind fun chars =>
    let (negative, body) := splitSign chars
    (readMagnitude? body).map fun x => if negative then -x else x
  match magnitude? with
  | some x => .ok x
  | none => .error (.notAReal text)

/-! ## Values that are not the number needed -/

/-- Why a value is not the number that is needed. -/
inductive ScalarFault
  | numeral (fault : NumeralFault)
  | notAReal (kind : String)
  | notAnInteger (kind : String)
  /-- An integer beyond the doubles. -/
  | tooLargeForReal
  /-- An infinity where an integer is needed. -/
  | infinite
  /-- The double that is no number where an integer is needed. -/
  | notANumber
  deriving DecidableEq, Repr

def ScalarFault.message : ScalarFault → String
  | .numeral fault => fault.message
  | .notAReal kind =>
    "float() argument must be a string or a real number, not \x27" ++ kind ++ "\x27"
  | .notAnInteger kind =>
    "int() argument must be a string, a bytes-like object or a real number, not \x27"
      ++ kind ++ "\x27"
  | .tooLargeForReal => "int too large to convert to float"
  | .infinite => "cannot convert float infinity to integer"
  | .notANumber => "cannot convert float NaN to integer"

end FarmLedger.Number
