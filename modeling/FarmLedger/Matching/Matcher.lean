/-
# FarmLedger.Matching.Matcher — which rows are meant

A matcher says which rows of an entity a call is about: all of them, those with one of some values
in a field, or those equal to one of some tuples in several fields. A value may be missing; no row
matches it. `Matcher.describe` shows a matcher in messages.

Where a call expects a matcher something else may arrive; a `Criterion` is either.

Texts are sequences of Unicode scalar values, here as everywhere in the ledger. A surrogate that
stands alone is not one, so texts with such surrogates are left out.
-/
import FarmLedger.Text.Quoted

namespace FarmLedger

open FarmLedger.Text

/-- Which rows of an entity are meant. -/
inductive Matcher
  | all
  /-- The field has one of the values. -/
  | byField (field : String) (values : List (Option String))
  /-- The fields have, in order, the values of one of the tuples. -/
  | byFields (fields : List String) (tuples : List (List (Option String)))
  deriving DecidableEq, Repr

namespace Matcher

def form : Matcher → String
  | all => "All"
  | byField _ _ => "ByField"
  | byFields _ _ => "ByCompositeField"

def describe : Matcher → String
  | all => "All"
  | byField field values => "ByField(" ++ field ++ "=" ++ bracketed (values.map quote?) ++ ")"
  | byFields fields tuples =>
    "ByCompositeField((" ++ ",".intercalate fields ++ ")="
      ++ bracketed (tuples.map fun tuple => bracketed (tuple.map quote?)) ++ ")"

end Matcher

/-- What stands where a matcher is expected. -/
inductive Criterion
  | matcher (matcher : Matcher)
  /-- Something else, known by the name of its kind. -/
  | other (kind : String)
  deriving DecidableEq, Repr

def Criterion.describe : Criterion → String
  | matcher m => m.describe
  | other kind => kind

end FarmLedger
