/-
# FarmLedger.Config.Address — where a database is

A database address begins with a scheme, which names the dialect and perhaps a driver, and two
slashes. After them may come, in this order: a user and a password before an at sign, a host, a
port after a colon, a place after a slash, and options after a question mark. An address of
PostgreSQL without a driver gets one (`normalize`).

`Address.read` takes an address apart. The user ends at the first colon or slash; where a colon
follows, the password reaches to the next at sign, and otherwise the user to its last at sign.
User, password, place and options may be written with percent signs. An option may be given more
than once. What stands after all that is not looked at.
-/
import FarmLedger.Failure
import FarmLedger.Text.Parts
import FarmLedger.Text.Percent
import FarmLedger.Text.Word

namespace FarmLedger.Config

open FarmLedger.Number FarmLedger.Text

/-- The text with another beginning, if it begins so. -/
def withBeginning (old new text : String) : Option String :=
  if text.startsWith old then some (new ++ (text.drop old.length).toString) else none

/-- The address with a driver for PostgreSQL. -/
def normalize (address : String) : String :=
  ((withBeginning "postgresql://" "postgresql+psycopg://" address).or
    (withBeginning "postgres://" "postgresql+psycopg://" address)).getD address

/-- Options by name in the order in which they come first, each with all its values. -/
abbrev Choices : Type := List (String × List String)

namespace Choices

def add (choices : Choices) (name value : String) : Choices :=
  if choices.any (·.1 == name) then
    choices.map fun choice => if choice.1 = name then (name, choice.2 ++ [value]) else choice
  else choices ++ [(name, [value])]

def all (choices : Choices) (name : String) : List String :=
  (choices.lookup name).getD []

def sorted (choices : Choices) : Choices :=
  choices.mergeSort fun a b => a.1 ≤ b.1

end Choices

structure Address where
  scheme : String
  user : Option String := none
  password : Option String := none
  host : Option String := none
  port : Option Int := none
  /-- The file or the name of the database. -/
  place : Option String := none
  choices : Choices := []

namespace Address

def isSchemeChar (c : Char) : Bool :=
  isWordChar c || c == '+'

/-- Splits characters at the last occurrence of a mark. -/
def splitAtLast (mark : Char) (chars : List Char) : Option (List Char × List Char) :=
  if chars.contains mark then
    let after := (chars.reverse.takeWhile (· != mark)).reverse
    some (chars.take (chars.length - after.length - 1), after)
  else none

/-- The user and the password, and what comes after them. -/
def readUser (chars : List Char) : Option String × Option String × List Char :=
  let run := chars.takeWhile fun c => c != ':' && c != '/'
  let rest := chars.drop run.length
  let password := (rest.drop 1).takeWhile (· != '@')
  if rest.head? = some ':' && (rest.drop 1).contains '@' then
    (some (fromPercents run), some (fromPercents password), rest.drop (password.length + 2))
  else
    match splitAtLast '@' run with
    | some (user, after) => (some (fromPercents user), none, after ++ rest)
    | none => (none, none, chars)

def endsServer (c : Char) : Bool :=
  c == '/' || c == '?'

/-- The host, and what comes after it. A host in brackets may hold colons. -/
def readHost (chars : List Char) : Option String × List Char :=
  let inBrackets := match chars with
    | '[' :: inside =>
      ((splitAtLast ']' (inside.takeWhile fun c => !endsServer c)).map Prod.fst).getD []
    | _ => []
  if inBrackets.isEmpty then
    let host := chars.takeWhile fun c => !endsServer c && c != ':'
    (if host.isEmpty then none else some (String.ofList host), chars.drop host.length)
  else (some (String.ofList inBrackets), chars.drop (inBrackets.length + 2))

def readPort (chars : List Char) : Except AddressFault (Option Int) × List Char :=
  match chars with
  | ':' :: rest =>
    let port := rest.takeWhile fun c => !endsServer c
    (((readInteger (String.ofList port)).mapError .port).map some, rest.drop port.length)
  | _ => (.ok none, chars)

def readPlace (chars : List Char) : Option String × List Char :=
  match chars with
  | '/' :: rest =>
    let place := rest.takeWhile (· != '?')
    (some (fromPercents place), rest.drop place.length)
  | _ => (none, chars)

/-- The options; one without a value does not count. -/
def readChoices (chars : List Char) : Choices :=
  match chars with
  | '?' :: rest =>
    (chunks '&' (rest.takeWhile (· != '\n'))).foldl (fun choices part =>
      let name := part.takeWhile (· != '=')
      let value := part.drop (name.length + 1)
      if value.isEmpty then choices
      else choices.add (fromFormPercents name) (fromFormPercents value)) []
  | _ => []

def read (text : String) : Except AddressFault Address :=
  let scheme := text.toList.takeWhile isSchemeChar
  match scheme, text.toList.drop scheme.length with
  | _ :: _, ':' :: '/' :: '/' :: rest => do
    let (user, password, rest) := readUser rest
    let (host, rest) := readHost rest
    let (port, rest) := readPort rest
    let (place, rest) := readPlace rest
    let port ← port
    pure { scheme := String.ofList scheme, user, password, host, port, place
           choices := readChoices rest }
  | _, _ => .error .unreadable

/-- The address with its password hidden. -/
def shown (address : Address) : String :=
  let user := address.user.elim "" fun user =>
    toPercents [' ', '+'] user ++ (if address.password.isSome then ":***" else "") ++ "@"
  let host := address.host.elim "" fun host =>
    if host.toList.contains ':' then "[" ++ host ++ "]" else host
  let port := address.port.elim "" fun port => ":" ++ toString port
  let place := address.place.elim "" fun place => "/" ++ toPercents [' ', '+', '/'] place
  let choices := address.choices.sorted.flatMap fun (name, values) =>
    values.map fun value => toFormPercents name ++ "=" ++ toFormPercents value
  address.scheme ++ "://" ++ user ++ host ++ port ++ place
    ++ (if choices.isEmpty then "" else "?" ++ "&".intercalate choices)

end Address

end FarmLedger.Config
