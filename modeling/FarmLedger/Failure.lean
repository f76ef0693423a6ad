/-
# FarmLedger.Failure — why a call fails

A failure names its cause and what the cause needs to be described; the wording is in
`Failure.message`. A `Refusal` is a failure that the ledger itself decides on: it always names the
entity, and the matcher if there was one.
-/
import FarmLedger.Config.AddressFault
import FarmLedger.Number.Mean
import FarmLedger.Number.Numeral
import FarmLedger.Number.Shortest
import FarmLedger.Time.Duration
import FarmLedger.Time.IsoText

namespace FarmLedger

open FarmLedger.Number FarmLedger.Text FarmLedger.Time

inductive RefusalKind
  | general
  /-- A sample came after the end of its window. -/
  | periodFinished
  /-- A lifecycle with the same token is already recorded. -/
  | duplicateOpen
  /-- A record that is only ever created exists already. -/
  | duplicate
  /-- Nothing matched where something is needed. -/
  | notFound
  /-- A number does not fit the width of its column. -/
  | precisionLoss
  deriving DecidableEq, Repr

structure Refusal where
  kind : RefusalKind
  entity : String
  detail : String
  matcher : Option String
  deriving DecidableEq, Repr

/-- The entity, what is wrong, and the matcher unless it is missing or empty. -/
def Refusal.message (r : Refusal) : String :=
  let described := match r.matcher with
    | some matcher => if matcher.isEmpty then "" else " (matcher=" ++ matcher ++ ")"
    | none => ""
  r.entity ++ ": " ++ r.detail ++ described

/-- The refusal of a sample that came after the end of its window. -/
def Refusal.periodFinished (entity : String) (matcher : Option String) : Refusal :=
  ⟨.periodFinished, entity, "observation period finished", matcher⟩

/-- Why a configuration does not load. -/
inductive ConfigFault
  | missing (setting : String)
  | notAnInteger (setting raw : String)
  | notAReal (setting raw : String)
  | notPositive (setting : String) (value : Int)
  | unknownLevel (name : String)
  deriving DecidableEq, Repr

/-- Why a text given as a moment is refused. -/
inductive MomentTextFault
  | unreadable (text : String)
  | withoutOffset
  deriving DecidableEq, Repr

def ConfigFault.message : ConfigFault → String
  | .missing setting => "Missing required environment variable: " ++ setting
  | .notAnInteger setting raw => "Invalid integer value for " ++ setting ++ ": " ++ raw
  | .notAReal setting raw => "Invalid float value for " ++ setting ++ ": " ++ raw
  | .notPositive setting value => setting ++ " must be positive, got " ++ toString value
  | .unknownLevel name => "Invalid log level for LOG_LEVEL: " ++ name

def MomentTextFault.message : MomentTextFault → String
  | .unreadable text => "Invalid timestamp: " ++ text
  | .withoutOffset => "Timestamp must include timezone offset."

/-- Why a value cannot be worked with: its kind does not have what is asked of it. -/
inductive KindFault
  /-- It is no row of items. -/
  | noItems
  | noLength
  /-- It does not offer an operation. -/
  | lacks (operation : String)
  /-- It does not compare with an integer. -/
  | unordered
  /-- No double can be taken from it. -/
  | noDifference
  /-- It cannot be summed. -/
  | noSummand
  deriving DecidableEq, Repr

def KindFault.message (kind : String) : KindFault → String
  | noItems => "\x27" ++ kind ++ "\x27 object is not iterable"
  | noLength => "object of type \x27" ++ kind ++ "\x27 has no len()"
  | lacks operation => "\x27" ++ kind ++ "\x27 object has no attribute \x27" ++ operation ++ "\x27"
  | unordered =>
    "\x27<\x27 not supported between instances of \x27" ++ kind ++ "\x27 and \x27int\x27"
  | noDifference =>
    "unsupported operand type(s) for -: \x27" ++ kind ++ "\x27 and \x27float\x27"
  | noSummand => "must be real number, not " ++ kind

/-- The kind of a value that is missing. -/
def missingKind : String := "NoneType"

/-- The kind of an empty row that stands where a value should be. -/
def blankKind : String := "list"

inductive ConditionFault
  /-- It lists tuples without any field beside another condition. -/
  | empty
  /-- It is nested too deeply. -/
  | tooDeep
  deriving DecidableEq, Repr

/-- The depth that a condition may not reach. -/
def conditionDepthLimit : Nat := 1000

def ConditionFault.message : ConditionFault → String
  | empty => "near \x22)\x22: syntax error"
  | tooDeep =>
    "Expression tree is too large (maximum depth " ++ toString conditionDepthLimit ++ ")"

/-- The cause of a failed call. -/
inductive Failure
  | timestamp (fault : TimestampFault)
  /-- A timestamp cannot be written to a column or compared with one. -/
  | unstorable (fault : TimestampFault)
  | duration (fault : DurationFault)
  | sum (fault : SumFault)
  | scalar (fault : ScalarFault)
  | config (fault : ConfigFault)
  | momentText (fault : MomentTextFault)
  | negativeLimit (limit : Float)
  | unmatchableField (table field : String)
  /-- A tuple of a composite matcher has another length than its fields. -/
  | tupleLength (matcher : String) (given fields : Nat)
  /-- A value of another kind stands where a matcher is needed. -/
  | notAMatcher (kind : String)
  /-- A value of a kind that the work cannot be done with. -/
  | unfit (kind : String) (fault : KindFault)
  | pageNumber (page : Int)
  | pageSize (size : Int)
  | unequalLengths (platforms balances : Nat)
  | noWorkers
  | condition (fault : ConditionFault)
  /-- A value of another kind cannot be written to a column of doubles. -/
  | unstorableReal (kind : String)
  /-- A value of another kind stands at a place of a statement, counted from one. -/
  | unbindable (place : Nat) (kind : String)
  /-- A whole number beyond 64 bits was handed to the database. -/
  | wholeTooLarge
  | noSuchTable (table : String)
  /-- There is no place for the database. -/
  | unreachable
  | missingValue (table column : String)
  | checkFailed (name : String)
  | duplicateKey (table : String) (columns : List String)
  | refused (refusal : Refusal)
  /-- A transaction was broken off on purpose. -/
  | raised (text : String)
  | interrupted (text : String)
  /-- A row that was just written is not there. -/
  | emptyAnswer
  | address (fault : AddressFault)
  deriving Repr

def Failure.message : Failure → String
  | .timestamp fault | .unstorable fault => fault.message
  | .duration fault => fault.message
  | .sum fault => fault.message
  | .scalar fault => fault.message
  | .config fault => fault.message
  | .momentText fault => fault.message
  | .negativeLimit limit => "OOB limit must be positive, got " ++ showReal limit
  | .unmatchableField table field => table ++ " cannot be matched on field \x27" ++ field ++ "\x27"
  | .tupleLength matcher given fields =>
    matcher ++ " has a " ++ toString given ++ "-tuple for " ++ toString fields ++ " fields"
  | .notAMatcher kind => "Unsupported matcher type: " ++ kind
  | .unfit kind fault => fault.message kind
  | .pageNumber page => "page must be >= 1, got " ++ toString page
  | .pageSize size => "per_page must be >= 1, got " ++ toString size
  | .unequalLengths platforms balances =>
    "standalone vault platforms and deposited balances must have equal length: "
      ++ toString platforms ++ " != " ++ toString balances
  | .noWorkers => "max_workers must be greater than 0"
  | .condition fault => fault.message
  | .unstorableReal kind => (ScalarFault.notAReal kind).message
  | .unbindable place kind =>
    "Error binding parameter " ++ toString place ++ ": type \x27" ++ kind
      ++ "\x27 is not supported"
  | .wholeTooLarge => "Python int too large to convert to SQLite INTEGER"
  | .noSuchTable table => "no such table: " ++ table
  | .unreachable => "unable to open database file"
  | .missingValue table column => "NOT NULL constraint failed: " ++ table ++ "." ++ column
  | .checkFailed name => "CHECK constraint failed: " ++ name
  | .duplicateKey table columns =>
    let full := columns.map fun column => table ++ "." ++ column
    "UNIQUE constraint failed: " ++ ", ".intercalate full
  | .refused refusal => refusal.message
  | .raised text | .interrupted text => text
  | .emptyAnswer => "list index out of range"
  | .address fault => fault.message

end FarmLedger
