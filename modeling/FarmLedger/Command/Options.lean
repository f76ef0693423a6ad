/-
# FarmLedger.Command.Options — options on a command line

A command line is a row of words. A word that begins with a hyphen may be an option: an option has
a long name, which may be shortened as long as no other option begins so, and takes one value,
which follows as the next word or after an equals sign. A value may look like a negative number
but not like another option. After the word `--` nothing is an option; after an equals sign it
leaves the option without a value, which is given all the same (`Value.blank`).

`OptionSet.scan` says what each word is, and `OptionSet.consume` then goes through them from left to
right. Words that nothing asked for are collected and refused only at the end, while an ambiguous
or missing value stops at once. Where a subcommand is looked for, everything from the first plain
word on is handed to the subcommand.

An option that names a moment takes a timestamp with its distance from UTC, where a `Z` stands for
no distance (`readInstant`). It is taken as the moment in UTC.
-/
import FarmLedger.Failure
import FarmLedger.Time.IsoReader

namespace FarmLedger.Command

open FarmLedger.Number FarmLedger.Text FarmLedger.Time

/-- The text with every `Z` written out as a distance. -/
def spellOutZulu (text : String) : String :=
  String.ofList (text.toList.flatMap fun c => if c = 'Z' then "+00:00".toList else [c])

def readInstant (text : String) : Except Failure Moment :=
  match IsoReader.read? (spellOutZulu (trim text)) with
  | none => .error (.momentText (.unreadable text))
  | some stamp =>
    if stamp.offset.isNone then .error (.momentText .withoutOffset)
    else stamp.toUtc.mapError .timestamp

/-- What the value of an option is read as. -/
inductive ValueKind
  | text
  | real
  | whole
  | instant
  deriving DecidableEq, Repr

inductive Value
  | text (value : String)
  | real (value : Float)
  | whole (value : Int)
  | instant (value : Moment)
  /-- The option is given and holds nothing. -/
  | blank

structure Spec where
  /-- The long name with its hyphens. -/
  name : String
  kind : ValueKind := .text
  required : Bool := false

/-- Why a command line is not carried out. -/
inductive Stop
  /-- It is not understood. -/
  | usage (text : String)
  /-- It asks for help. -/
  | help
  /-- A value of it leads to a failure. -/
  | failure (failure : Failure)

/-- What a name stands for. -/
inductive Known
  | help
  | value (spec : Spec)

/-- The name of an option in messages. -/
def Known.display : Known → String
  | help => "-h/--help"
  | value spec => spec.name

def Known.complain {α : Type} (known : Known) (text : String) : Except Stop α :=
  .error (.usage ("argument " ++ known.display ++ ": " ++ text))

inductive Word
  | plain
  /-- The word after which nothing is an option. -/
  | endOfOptions
  /-- It looks like an option, but none has the name. -/
  | unknown
  | option (known : Known) (attached : Option String)

/-- The options that may be given before a subcommand, or after it. -/
structure OptionSet where
  specs : List Spec

namespace OptionSet

variable (options : OptionSet)

/-- All names with what they stand for; help comes first. -/
def names : List (String × Known) :=
  ("-h", .help) :: ("--help", .help) :: options.specs.map fun spec => (spec.name, .value spec)

/-- The part of a word before its first equals sign, and what comes after it. -/
def splitAttached (word : String) : String × Option String :=
  let before := word.toList.takeWhile (· != '=')
  let after := word.toList.dropWhile (· != '=')
  (String.ofList before, if after.isEmpty then none else some (String.ofList (after.drop 1)))

/-- All names that a word may stand for. After two hyphens it may be shortened; after one hyphen
the first letter may be an option, and the rest its value. -/
def candidates (word : String) : List (String × Known × Option String) :=
  match word.toList with
  | '-' :: '-' :: _ =>
    let (start, attached) := splitAttached word
    (options.names.filter fun (name, _) => name.startsWith start).map
      fun (name, known) => (name, known, attached)
  | '-' :: c :: rest =>
    options.names.filterMap fun (name, known) =>
      if name.toList = ['-', c] then some (name, known, some (String.ofList rest))
      else if name.startsWith word then some (name, known, none)
      else none
  | _ => []

/-- A word that looks like a negative number: a hyphen, then digits, perhaps with a point before
the last of them. A line feed at the end does not count. -/
def isNegativeNumber (word : String) : Bool :=
  match word.toList with
  | '-' :: chars =>
    let body := if chars.getLast? = some '\n' then chars.dropLast else chars
    let whole := body.takeWhile isDecimalDigit
    match body.dropWhile isDecimalDigit with
    | [] => !whole.isEmpty
    | '.' :: fraction => !fraction.isEmpty && fraction.all isDecimalDigit
    | _ => false
  | _ => false

/-- What a word is, unless it is ambiguous. -/
def classify (word : String) : Except Stop Word :=
  if !word.startsWith "-" then .ok .plain
  else
    match options.names.lookup word with
    | some known => .ok (.option known none)
    | none =>
      if word = "-" then .ok .plain
      else
        let (start, attached) := splitAttached word
        match attached, options.names.lookup start with
        | some attached, some known => .ok (.option known (some attached))
        | _, _ =>
          match options.candidates word with
          | [(_, known, attached)] => .ok (.option known attached)
          | [] =>
            if isNegativeNumber word || word.toList.contains ' ' then .ok .plain
            else .ok .unknown
          | several =>
            .error (.usage ("ambiguous option: " ++ word ++ " could match "
              ++ ", ".intercalate (several.map (·.1))))

def scan : List String → Except Stop (List (String × Word))
  | [] => .ok []
  | word :: words => do
    if word = "--" then pure ((word, .endOfOptions) :: words.map fun word => (word, .plain))
    else
      let kind ← options.classify word
      let others ← scan words
      pure ((word, kind) :: others)

end OptionSet

/-- Reads the value of an option in a word of its own. -/
def Spec.read (spec : Spec) (text : String) : Except Stop Value :=
  let invalid (kind : String) : Except Stop Value :=
    (Known.value spec).complain ("invalid " ++ kind ++ " value: " ++ quote text)
  match spec.kind with
  | .text => .ok (.text text)
  | .real =>
    match readReal text with
    | .ok value => .ok (.real value)
    | .error _ => invalid "float"
  | .whole =>
    match readInteger text with
    | .ok value => .ok (.whole value)
    | .error _ => invalid "int"
  | .instant =>
    match readInstant text with
    | .ok value => .ok (.instant value)
    | .error (.momentText fault) => (Known.value spec).complain fault.message
    | .error failure => .error (.failure failure)

/-- Reads the value of an option in the same word. -/
def Spec.readAttached (spec : Spec) (text : String) : Except Stop Value :=
  if text = "--" then .ok .blank else spec.read text

/-- Asks for help where something is attached to the option in the same word. After one hyphen
more letters may ask again. -/
def helpWith (word attached : String) : Stop :=
  let rest :=
    if word.startsWith "--" then attached.toList else attached.toList.dropWhile (· == 'h')
  if attached.isEmpty || !rest.isEmpty then
    .usage ("argument " ++ Known.help.display ++ ": ignored explicit argument "
      ++ quote (String.ofList rest))
  else .help

structure Found where
  /-- The values in the order in which they were given, by the names of their options. -/
  values : List (String × Value)
  /-- Words that nothing asked for. -/
  extras : List String
  /-- The first plain word and everything after it, where a subcommand is looked for. -/
  command : List String

namespace Found

def empty : Found := ⟨[], [], []⟩

def last? (found : Found) (name : String) : Option Value :=
  ((found.values.filter (·.1 == name)).getLast?).map (·.2)

def all (found : Found) (name : String) : List Value :=
  (found.values.filter (·.1 == name)).map (·.2)

end Found

namespace OptionSet

/-- Goes through the words. With `subcommands` the first plain word ends the search. -/
def consume (subcommands : Bool) : Found → List (String × Word) → Except Stop Found
  | found, [] => .ok found
  | found, (word, .plain) :: words =>
    if subcommands then .ok { found with command := word :: words.map (·.1) }
    else consume subcommands { found with extras := found.extras ++ [word] } words
  | found, (word, .endOfOptions) :: words =>
    if subcommands && !words.isEmpty then .ok { found with command := word :: words.map (·.1) }
    else consume subcommands { found with extras := found.extras ++ [word] } words
  | found, (word, .unknown) :: words =>
    consume subcommands { found with extras := found.extras ++ [word] } words
  | _, (_, .option .help none) :: _ => .error .help
  | _, (word, .option .help (some attached)) :: _ => .error (helpWith word attached)
  | found, (_, .option (.value spec) (some attached)) :: words => do
    let value ← spec.readAttached attached
    consume subcommands { found with values := found.values ++ [(spec.name, value)] } words
  | found, (_, .option (.value spec) none) :: (word, .plain) :: words => do
    let value ← spec.read word
    consume subcommands { found with values := found.values ++ [(spec.name, value)] } words
  | _, (_, .option (.value spec) none) :: _ =>
    (Known.value spec).complain "expected one argument"

def missing (options : OptionSet) (found : Found) : List String :=
  (options.specs.filter fun spec => spec.required && (found.last? spec.name).isNone).map (·.name)

/-- Refuses a line on which something needed is missing. -/
def require (missing : List String) : Except Stop Unit :=
  if missing.isEmpty then .ok ()
  else
    .error (.usage ("the following arguments are required: " ++ ", ".intercalate missing))

def read (options : OptionSet) (subcommands : Bool) (words : List String) : Except Stop Found := do
  let scanned ← options.scan words
  consume subcommands .empty scanned

end OptionSet

def refuseExtras (extras : List String) : Except Stop Unit :=
  if extras.isEmpty then .ok ()
  else .error (.usage ("unrecognized arguments: " ++ " ".intercalate extras))

end FarmLedger.Command
