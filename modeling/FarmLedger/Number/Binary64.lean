/-
# FarmLedger.Number.Binary64 — doubles as exact numbers

A double is read as what it stands for: a signed multiple of a power of two, an infinity, or no
number at all (`reading`). Every finite double is a whole multiple of the smallest positive one,
2⁻¹⁰⁷⁴, so finite doubles are compared, added and truncated exactly as integers (`units`).
`ofUnits` goes back, and `ofQuotient` finds the double of a quotient; both round to the nearest
double, a half to the even neighbour.

This is the one rounding rule of the ledger (`halfEven`). Printed decimals and durations have it
too.
-/
namespace FarmLedger.Number

/-- The whole number nearest to `num / den`; a half goes to the even neighbour. -/
def halfEven (num den : Nat) : Nat :=
  let floor := num / den
  let rest := num % den
  if 2 * rest < den then floor
  else if den < 2 * rest then floor + 1
  else floor + floor % 2

/-- The integer nearest to `num / den`; a half goes to the even neighbour. -/
def halfEvenInt (num : Int) (den : Nat) : Int :=
  if num < 0 then -(halfEven num.natAbs den) else halfEven num.natAbs den

/-- What a double stands for. -/
inductive Reading
  /-- The number `±significand · 2 ^ exponent`. -/
  | finite (negative : Bool) (significand : Nat) (exponent : Int)
  | infinite (negative : Bool)
  | notANumber
  deriving DecidableEq, Repr

def infinity : Float := 1.0 / 0.0

def notANumber : Float := 0.0 / 0.0

/-- The sign bit. -/
def isNegative (x : Float) : Bool :=
  x.toBits.toNat / Nat.pow 2 63 == 1

/-- The double, read exactly. -/
def reading (x : Float) : Reading :=
  let bits : Nat := x.toBits.toNat
  let field : Nat := bits / Nat.pow 2 52 % 2048
  let fraction : Nat := bits % Nat.pow 2 52
  if field = 2047 then
    if fraction = 0 then .infinite (isNegative x) else .notANumber
  else if field = 0 then .finite (isNegative x) fraction (-1074)
  else .finite (isNegative x) (Nat.pow 2 52 + fraction) ((field : Int) - 1075)

/-- How many times the smallest positive double a finite double is; 0 for the others. -/
def units (x : Float) : Int :=
  match reading x with
  | .finite negative significand exponent =>
    let magnitude : Int := significand * (Nat.pow 2 (exponent + 1074).toNat : Nat)
    if negative then -magnitude else magnitude
  | _ => 0

/-- The bits of the non-negative double nearest to `num / den` units. Below 2⁵³ units the doubles
are the whole numbers of units; above, each further power of two doubles their distance. -/
def nearestBits (num den : Nat) : Nat :=
  let floor := num / den
  if floor < Nat.pow 2 53 then halfEven num den
  else
    let shift := floor.log2 - 52
    min (shift * Nat.pow 2 52 + halfEven num (den * Nat.pow 2 shift)) (2047 * Nat.pow 2 52)

/-- A double from its sign and its other bits. -/
def ofSignAndBits (negative : Bool) (bits : Nat) : Float :=
  Float.ofBits (UInt64.ofNat ((if negative then Nat.pow 2 63 else 0) + bits))

/-- The double nearest to a number of units; zero is the positive one. -/
def ofUnits (count : Int) : Float :=
  ofSignAndBits (count < 0) (nearestBits count.natAbs 1)

def ofQuotient (num : Int) (den : Nat) : Float :=
  ofSignAndBits (num < 0) (nearestBits (num.natAbs * Nat.pow 2 1074) den)

/-- The integer part of a finite double, toward zero. -/
def truncate (x : Float) : Int :=
  (units x).tdiv (Nat.pow 2 1074)

/-- The fractional part of a finite double, with the double's sign. -/
def fraction (x : Float) : Float :=
  ofUnits ((units x).tmod (Nat.pow 2 1074))

/-- The integer nearest to a finite double; a half goes to the even neighbour. -/
def nearestInt (x : Float) : Int :=
  halfEvenInt (units x) (Nat.pow 2 1074)

/-- The double without a sign on zero. -/
def plainZero (x : Float) : Float :=
  if x == 0.0 then 0.0 else x

/-- Equal in value, position by position: a zero equals a zero of the other sign, and the double
that is no number equals nothing. -/
def sameReals : List Float → List Float → Bool
  | [], [] => true
  | x :: xs, y :: ys => x == y && sameReals xs ys
  | _, _ => false

end FarmLedger.Number
