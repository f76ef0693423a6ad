/-
# FarmLedger.Guard — keeping outliers out

A price may differ from the one before it by a limited percentage. A guard holds the limit and
decides on a candidate; without a price before it every candidate is accepted. A limit that is
missing or zero stands for the default one.

The `Settings` of a ledger are this limit and the length of the windows of moving averages.
-/
import FarmLedger.Failure
import FarmLedger.Window

namespace FarmLedger

open FarmLedger.Time

/-- The limit where none is set, in percent. -/
def defaultLimit : Float := 25.0

def resolveLimit : Option Float → Except Failure Float
  | none => .ok defaultLimit
  | some limit =>
    if limit == 0.0 then .ok defaultLimit
    else if limit < 0.0 then .error (.negativeLimit limit)
    else .ok limit

/-- How far a candidate is from the price before it, in percent of that price. Nothing is far from
zero. -/
def deviation (previous candidate : Float) : Float :=
  if previous == 0.0 then 0.0 else (candidate - previous).abs / previous.abs * 100.0

/-- The largest deviation that is accepted, in percent. -/
structure Guard where
  limit : Float

/-- What a guard says about a candidate. -/
structure Verdict where
  accepted : Bool
  deviation : Float
  limit : Float

namespace Guard

def ofSetting (limit : Option Float) : Except Failure Guard :=
  (resolveLimit limit).map Guard.mk

def judge (guard : Guard) (previous : Option Float) (candidate : Float) : Verdict :=
  match previous with
  | none => ⟨true, 0.0, guard.limit⟩
  | some price =>
    let distance := deviation price candidate
    ⟨distance ≤ guard.limit, distance, guard.limit⟩

end Guard

structure Settings where
  /-- The largest accepted deviation in percent; a missing or zero one stands for the default. -/
  limit : Option Float := some defaultLimit
  windowLength : Duration := Window.defaultLength

end FarmLedger
