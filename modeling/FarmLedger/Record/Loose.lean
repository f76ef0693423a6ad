/-
# FarmLedger.Record.Loose — records of any kind

Some rows of values arrive as records whose kind is not known before. A record has a name for its
kind, items to go through if it is a row of something, and stands for a number where that has a
plain meaning: a text is read as a numeral, a flag is 1 or 0, an integer becomes the nearest
double, and a double is cut to its integer part.

Two records have the same value if they are alike up to the writing of numbers: a flag is the
number 1 or 0, an integer equals the double with its value, rows are compared item by item, and
the members of objects by their names.
-/
import FarmLedger.Number.Numeral
import FarmLedger.Record.Json

namespace FarmLedger.Record.Json

open FarmLedger.Number

def kindName : Json → String
  | null => "NoneType"
  | flag _ => "bool"
  | whole _ => "int"
  | real _ => "float"
  | text _ => "str"
  | list _ => "list"
  | object _ => "dict"

def toReal : Json → Except ScalarFault Float
  | text value => (readReal value).mapError .numeral
  | whole value =>
    let x := ofQuotient value 1
    if x.isFinite then .ok x else .error .tooLargeForReal
  | real value => .ok value
  | flag value => .ok (if value then 1.0 else 0.0)
  | other => .error (.notAReal other.kindName)

def toInteger : Json → Except ScalarFault Int
  | text value => (readInteger value).mapError .numeral
  | whole value => .ok value
  | real value =>
    if value.isNaN then .error .notANumber
    else if !value.isFinite then .error .infinite
    else .ok (truncate value)
  | flag value => .ok value.toInt
  | other => .error (.notAnInteger other.kindName)

/-- What a record is a row of: the items of a list, the characters of a text, the names of an
object's members. -/
def items? : Json → Option (List Json)
  | list items => some items
  | text value => some (value.toList.map fun c => .text (String.ofList [c]))
  | object members => some (members.map fun member => .text member.1)
  | _ => none

def isInteger (x : Float) (n : Int) : Bool :=
  x.isFinite && units x == n * (Nat.pow 2 1074 : Int)

/-- The integer that a record is, where a flag is 1 or 0. -/
def integer? : Json → Option Int
  | flag value => some value.toInt
  | whole value => some value
  | _ => none

/-- Two records that are no rows have the same value. -/
def sameLeaf (a b : Json) : Bool :=
  match a.integer?, b.integer?, a, b with
  | some m, some n, _, _ => m == n
  | some m, none, _, real y => isInteger y m
  | none, some n, real x, _ => isInteger x n
  | none, none, real x, real y => x == y
  | none, none, text x, text y => x == y
  | none, none, null, null => true
  | _, _, _, _ => false

mutual

def same : Json → Json → Bool
  | list a, list b => sameItems a b
  | object a, object b => a.length == b.length && sameMembers a b
  | a, b => sameLeaf a b

def sameItems : List Json → List Json → Bool
  | [], [] => true
  | a :: as, b :: bs => same a b && sameItems as bs
  | _, _ => false

/-- Every member has the value that the other object gives its name. -/
def sameMembers : List (String × Json) → List (String × Json) → Bool
  | [], _ => true
  | (name, a) :: others, members =>
    (match members.lookup name with
    | some b => same a b
    | none => false) && sameMembers others members

end

end FarmLedger.Record.Json
