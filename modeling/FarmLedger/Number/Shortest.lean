/-
# FarmLedger.Number.Shortest — the fewest digits that read back

A finite double stands for an exact number, and every number of an interval around it rounds to
it. `shortest` looks for a decimal in that interval with one digit, then with two, and so on: on
each decimal grid only the two neighbours of the exact number can be the nearest hit, and of two
hits the nearer wins, an even last digit on a tie. Seventeen digits are always enough.

How the digits are laid out is a `RealFormat`: the range of decimal points written positionally,
the least width of an exponent, and the words for what has no digits.

Percentages in messages have a fixed number of places instead (`showFixed`). The exact value of the
double is rounded to the last place, a half to the even neighbour; the sign is kept, also on a zero.
-/
import FarmLedger.Number.Binary64
import FarmLedger.Number.Digits

namespace FarmLedger.Number

/-- The number `coefficient · 10 ^ exponent`. -/
structure Decimal where
  coefficient : Nat
  exponent : Int
  deriving DecidableEq, Repr

/-- Removes up to `fuel` trailing zeros. -/
def Decimal.strip : (fuel : Nat) → Decimal → Decimal
  | 0, d => d
  | fuel + 1, d =>
    if d.coefficient % 10 = 0 then strip fuel ⟨d.coefficient / 10, d.exponent + 1⟩ else d

/-- The place of the decimal point when the number is written as `0.ddd`. -/
def Decimal.point (d : Decimal) : Int :=
  (digitsOf d.coefficient).length + d.exponent

/-- The numbers that round to one double, all over a common denominator: the number itself, the
two ends, and whether the ends belong to it. -/
structure Cell where
  value : Nat
  low : Nat
  high : Nat
  denominator : Nat
  closed : Bool

/-- The cell of `significand · 2 ^ exponent`. Below a power of two doubles lie twice as dense. -/
def cellOf (significand : Nat) (exponent : Int) : Cell :=
  let scale := Nat.pow 2 (exponent - 2).toNat
  let below := if significand = Nat.pow 2 52 ∧ -1074 < exponent then 1 else 2
  { value := 4 * significand * scale
    low := (4 * significand - below) * scale
    high := (4 * significand + 2) * scale
    denominator := Nat.pow 2 (2 - exponent).toNat
    closed := significand % 2 = 0 }

/-- The place of the decimal point of a positive quotient: the least `k` with
`num / den < 10 ^ k`. -/
def pointOf (num den : Nat) : Int :=
  if den ≤ num then (digitsOf (num / den)).length
  else
    let zeros := (digitsOf (den / num)).length - 1
    if num * Nat.pow 10 zeros < den then -(zeros : Int) else 1 - (zeros : Int)

/-- The multiple of `10 ^ place` in the cell that is nearest to its number, if there is any. -/
def Cell.onGrid? (cell : Cell) (place : Int) : Option Decimal :=
  let up := Nat.pow 10 (-place).toNat
  let step := cell.denominator * Nat.pow 10 place.toNat
  let holds (c : Nat) : Bool :=
    if cell.closed then cell.low * up ≤ c * step && c * step ≤ cell.high * up
    else cell.low * up < c * step && c * step < cell.high * up
  let floor := cell.value * up / step
  let pick : Option Nat :=
    if holds floor && holds (floor + 1) then some (halfEven (cell.value * up) step)
    else if holds floor then some floor
    else if holds (floor + 1) then some (floor + 1)
    else none
  pick.map fun c => ⟨c, place⟩

/-- The shortest decimal that rounds to `significand · 2 ^ exponent`, a positive double. -/
def shortest (significand : Nat) (exponent : Int) : Decimal :=
  let cell := cellOf significand exponent
  let point := pointOf cell.value cell.denominator
  let counts := (List.range 17).map (· + 1)
  match counts.findSome? fun (count : Nat) => cell.onGrid? (point - count) with
  | some decimal => decimal.strip 400
  | none => ⟨significand, exponent⟩

structure RealFormat where
  /-- The least decimal point written positionally. -/
  leastPoint : Int
  /-- The greatest decimal point written positionally. -/
  greatestPoint : Int
  /-- The least number of digits of an exponent. -/
  exponentWidth : Nat
  infinity : String
  notANumber : String

/-- Numbers in messages: positional from 0.0001 up to 16 digits before the point. -/
def RealFormat.plain : RealFormat :=
  ⟨-3, 16, 2, "inf", "nan"⟩

/-- Numbers in written records: as in messages, with the words that records use. -/
def RealFormat.record : RealFormat :=
  { RealFormat.plain with infinity := "Infinity", notANumber := "NaN" }

/-- A positive decimal, positional or with an exponent. -/
def RealFormat.layOut (format : RealFormat) (d : Decimal) : String :=
  let digits := digitsOf d.coefficient
  let point := d.point
  if format.leastPoint ≤ point ∧ point ≤ format.greatestPoint then
    if point ≤ 0 then
      "0." ++ String.ofList (List.replicate (-point).toNat '0' ++ digits)
    else
      let whole := digits.take point.toNat ++ List.replicate (point.toNat - digits.length) '0'
      let rest := digits.drop point.toNat
      String.ofList whole ++ "." ++ (if rest.isEmpty then "0" else String.ofList rest)
  else
    let exponent := point - 1
    let rest := digits.drop 1
    String.ofList (digits.take 1)
      ++ (if rest.isEmpty then "" else "." ++ String.ofList rest)
      ++ (if exponent < 0 then "e-" else "e+")
      ++ padded format.exponentWidth exponent.natAbs

def RealFormat.render (format : RealFormat) (x : Float) : String :=
  let sign (negative : Bool) := if negative then "-" else ""
  match reading x with
  | .notANumber => format.notANumber
  | .infinite negative => sign negative ++ format.infinity
  | .finite negative significand exponent =>
    sign negative ++
      (if significand = 0 then "0.0" else format.layOut (shortest significand exponent))

def showReal (x : Float) : String :=
  RealFormat.plain.render x

/-! ## A fixed number of places -/

/-- The exact value of a finite double as a quotient, without its sign. -/
def magnitudeRatio (significand : Nat) (exponent : Int) : Nat × Nat :=
  (significand * Nat.pow 2 exponent.toNat, Nat.pow 2 (-exponent).toNat)

/-- A double with the given number of places after the point, at least one. -/
def showFixed (places : Nat) (x : Float) : String :=
  match reading x with
  | .notANumber => RealFormat.plain.notANumber
  | .infinite negative => (if negative then "-" else "") ++ RealFormat.plain.infinity
  | .finite negative significand exponent =>
    let (num, den) := magnitudeRatio significand exponent
    let one := Nat.pow 10 places
    let scaled := halfEven (num * one) den
    (if negative then "-" else "") ++ padded 1 (scaled / one)
      ++ "." ++ padded places (scaled % one)

end FarmLedger.Number
