/-
# FarmLedger.Number.Mean — the mean of the exact sum

The sum of doubles is taken exactly and rounded once, so neither the order nor cancellation loses
anything: the sum of 10¹⁶, 1 and −10¹⁶ is 1. The mean is that sum divided by the count.

Two sums are refused. One has infinities of both signs. The other outgrows the doubles on the way:
the sum so far is carried as an *expansion*, doubles of falling magnitude that do not overlap, and
no step of an addition to it may leave the finite doubles, even if later numbers would lead
back. A number that is not finite starts the expansion anew.
-/
import FarmLedger.Number.Binary64

namespace FarmLedger.Number

/-- Why a list of doubles has no sum. -/
inductive SumFault
  /-- The running sum left the range of the finite doubles. -/
  | overflow
  /-- Infinities of both signs. -/
  | opposedInfinities
  deriving DecidableEq, Repr

def SumFault.message : SumFault → String
  | .overflow => "intermediate overflow in fsum"
  | .opposedInfinities => "-inf + inf in fsum"

/-- The rounded sum of two doubles and the rounding error, the larger one given first. -/
def twoSum (large small : Float) : Float × Float :=
  let high := large + small
  (high, small - (high - large))

/-- Adds a double to an expansion that lists its parts from the smallest up. -/
def addToExpansion (x : Float) : List Float → List Float
  | [] => if x == 0.0 then [] else [x]
  | part :: parts =>
    let (high, low) := if x.abs < part.abs then twoSum part x else twoSum x part
    if low == 0.0 then addToExpansion high parts else low :: addToExpansion high parts

/-- The running sum of finite doubles stays finite. -/
def staysFinite : (expansion : List Float) → List Float → Bool
  | _, [] => true
  | expansion, x :: xs =>
    if x.isFinite then
      let next := addToExpansion x expansion
      next.all Float.isFinite && staysFinite next xs
    else staysFinite [] xs

/-- The exact sum of finite doubles, in units of the smallest positive double. -/
def exactUnits (xs : List Float) : Int :=
  (xs.map units).foldl (· + ·) 0

/-- The sum, rounded once. -/
def sum (xs : List Float) : Except SumFault Float :=
  if !staysFinite [] xs then .error .overflow
  else if xs.contains infinity && xs.contains (-infinity) then .error .opposedInfinities
  else if xs.any Float.isNaN then .ok notANumber
  else if xs.contains infinity then .ok infinity
  else if xs.contains (-infinity) then .ok (-infinity)
  else .ok (ofUnits (exactUnits xs))

def mean (xs : List Float) : Except SumFault Float :=
  (sum xs).map (· / Float.ofNat xs.length)

end FarmLedger.Number
