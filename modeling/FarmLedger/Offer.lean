/-
# FarmLedger.Offer — what is handed over for a value

Where one value is expected, somebody may hand over nothing, or an empty row of values. An `Offer`
keeps the three apart. Nothing is what a column without a value gets; an empty row fits no column
and offers no operation of a text or a number.
-/
import FarmLedger.Failure

namespace FarmLedger

/-- What is handed over for a value. -/
inductive Offer (α : Type)
  | value (value : α)
  | missing
  /-- An empty row stands where the value should be. -/
  | blank
  deriving DecidableEq, Repr

namespace Offer

variable {α : Type}

def value? : Offer α → Option α
  | value a => some a
  | missing | blank => none

/-- The value or nothing, unless an empty row was handed over. -/
def optional? : Offer α → Option (Option α)
  | value a => some (some a)
  | missing => some none
  | blank => none

/-- The value, or another one where nothing was handed over. -/
def orElse (offer : Offer α) (other : α) : Offer α :=
  match offer with
  | missing => value other
  | offer => offer

/-- The value, or what its absence leads to, told the kind of what is there instead. -/
def require (offer : Offer α) (failure : String → Failure) : Except Failure α :=
  match offer with
  | value a => .ok a
  | missing => .error (failure missingKind)
  | blank => .error (failure blankKind)

/-- The text on which an operation is to be carried out. -/
def forOperation (offer : Offer α) (operation : String) : Except Failure α :=
  offer.require fun kind => .unfit kind (.lacks operation)

/-- What is stored in a column of doubles. -/
def forReal (offer : Offer α) : Except Failure (Option α) :=
  match offer.optional? with
  | some given => .ok given
  | none => .error (.unstorableReal blankKind)

/-- What is stored where a statement has a place, counted from one. -/
def forPlace (offer : Offer α) (place : Nat) : Except Failure (Option α) :=
  match offer.optional? with
  | some given => .ok given
  | none => .error (.unbindable place blankKind)

def shown (offer : Offer α) (text : α → String) : String :=
  match offer with
  | value a => text a
  | missing => "None"
  | blank => "[]"

end Offer

end FarmLedger
