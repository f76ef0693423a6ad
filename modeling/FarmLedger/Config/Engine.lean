/-
# FarmLedger.Config.Engine — connections to an address

An `Engine` describes how connections to an address are kept: one shared connection for a database
in memory, one for each thread where the address names no file, and otherwise a queue of
connections, which for a server has a given size and a check before use.

Before there is an engine the address is read, the extensions that it asks for are looked for,
then its driver, and then the driver looks at the address. SQLite has no server, and some of its
options have a kind; PostgreSQL may be told several hosts and ports, which have to go together.
-/
import FarmLedger.Config.Address
import FarmLedger.Config.Driver

namespace FarmLedger.Config

open FarmLedger.Number FarmLedger.Text FarmLedger.Time

/-- How connections are kept. -/
inductive Pool
  /-- One connection for everybody. -/
  | shared
  /-- One connection for each thread. -/
  | byThread
  /-- Connections that wait in a queue. -/
  | queue
  /-- A queue for connections that are waited for in between. -/
  | waitingQueue
  deriving DecidableEq, Repr

/-- Where the rows of a database are kept. -/
inductive Store
  | memory
  | file (path : String)
  | server
  deriving DecidableEq, Repr

/-- How a database is connected to. -/
structure Engine where
  dialect : Dialect
  driver : String
  pool : Pool
  /-- The size of the queue, where it can be chosen. -/
  poolSize : Option Int
  /-- A connection is checked before it is used. -/
  checksConnections : Bool
  store : Store
  deriving DecidableEq, Repr

def defaultPoolSize : Int := 5

def memoryPlace : String := ":memory:"

/-! ## SQLite -/

inductive ChoiceKind
  | truth
  | real
  | whole
  deriving DecidableEq, Repr

/-- The options of SQLite that have a kind, in the order in which they are looked at. -/
def typedChoices : List (String × ChoiceKind) := [
  ("uri", .truth), ("timeout", .real), ("detect_types", .whole), ("check_same_thread", .truth),
  ("cached_statements", .whole)]

def driverChoices : List String :=
  "isolation_level" :: typedChoices.map (·.1)

def readTruth (text : String) : Except AddressFault Bool :=
  let word := String.ofList ((trim text).toList.map Char.toLower)
  if ["true", "yes", "on", "y", "t", "1"].contains word then .ok true
  else if ["false", "no", "off", "n", "f", "0"].contains word then .ok false
  else .error (.notATruth word)

/-- The values of an option are of its kind. An option with several values counts as true. -/
def checkChoice (kind : ChoiceKind) (values : List String) : Except AddressFault Unit :=
  match kind, values with
  | _, [] => .ok ()
  | .truth, [text] => (readTruth text).map fun _ => ()
  | .real, [text] => ((readReal text).mapError (.notANumber ∘ .numeral)).map fun _ => ()
  | .whole, [text] => ((readInteger text).mapError (.notANumber ∘ .numeral)).map fun _ => ()
  | .truth, _ => .ok ()
  | .real, _ => .error (.notANumber (.notAReal "tuple"))
  | .whole, _ => .error (.notANumber (.notAnInteger "tuple"))

def isChosen (choices : Choices) (name : String) : Bool :=
  match choices.all name with
  | [] => false
  | [text] => (readTruth text).toOption.getD false
  | _ => true

/-- A text is given and holds something. -/
def isGiven (text : Option String) : Bool :=
  text.any fun text => !text.isEmpty

namespace Address

/-- The address names a server, or somebody who is known there. -/
def namesServer (address : Address) : Bool :=
  isGiven address.user || isGiven address.password || isGiven address.host
    || address.port.any (· != 0)

/-- The options for the file, where it is named as a resource. -/
def fileChoices (address : Address) : Choices :=
  address.choices.filter fun choice => !driverChoices.contains choice.1

/-- The database is in a file, to judge by the address. -/
def namesFile (address : Address) : Bool :=
  isGiven address.place && address.place != some memoryPlace
    && address.choices.all "mode" != ["memory"]

/-- The options for the file as they are written behind its name. -/
def fileOptions (address : Address) : String :=
  let written := address.fileChoices.sorted.map fun (name, values) =>
    name ++ "=" ++ (match values with
      | [value] => value
      | values => inTuple (values.map some))
  if written.isEmpty then "" else "?" ++ "&".intercalate written

/-- Where a file is that is named as a resource: its path stands after a scheme and perhaps an
authority, and before options. Without the scheme all of it is the path. -/
def resourceStore (address : Address) (place : String) : Store :=
  match withBeginning "file:" "" place with
  | none => if place.isEmpty then .memory else .file (place ++ address.fileOptions)
  | some rest =>
    let path := rest.toList.takeWhile fun c => c != '?' && c != '#'
    let path := match path with
      | '/' :: '/' :: after => after.dropWhile (· != '/')
      | path => path
    let path := fromPercents path
    if path.isEmpty || path == memoryPlace || (address.choices.all "mode").contains "memory" then
      .memory
    else .file path

def sqliteStore (address : Address) : Store :=
  let place := address.place.getD ""
  if isChosen address.choices "uri" then address.resourceStore place
  else if place.isEmpty || place == memoryPlace then .memory
  else .file place

def checkSqlite (address : Address) : Except AddressFault Unit := do
  if address.namesServer then throw (.serverOfFile address.shown)
  typedChoices.forM fun (name, kind) => checkChoice kind (address.choices.all name)
  if isChosen address.choices "uri" && !address.fileChoices.isEmpty && address.place.isNone then
    throw .optionsWithoutFile

/-! ## PostgreSQL -/

/-- A host with its port, where it is the only one: letters, digits, hyphens and points, and then
perhaps digits after a colon. A line feed at the end does not count. -/
def hostAndPort? (text : String) : Option (String × Option String) :=
  let chars := if text.endsWith "\n" then text.toList.dropLast else text.toList
  let host := chars.takeWhile fun c =>
    (c.toNat < 0x80 && c.isAlphanum) || c == '-' || c == '.'
  match chars.drop host.length with
  | [] => some (String.ofList host, none)
  | ':' :: port =>
    if port.all isDecimalDigit then
      some (String.ofList host, if port.isEmpty then none else some (String.ofList port))
    else none
  | _ => none

/-- The hosts that the options name, with the ports that stand beside them. -/
def readHosts (choices : Choices) :
    Except AddressFault (Option (List String × Option (List (Option String)))) :=
  match choices.all "host" with
  | [] => .ok none
  | [text] =>
    let hosts := (chunks ',' text.toList).map String.ofList
    if hosts.length = 1 && (choices.all "port").isEmpty && text.toList.contains ':' then
      match hostAndPort? text with
      | some (host, port) => .ok (some ([host], some [port]))
      | none => .ok (some (hosts, none))
    else .ok (some (hosts, none))
  | texts =>
    let parts := texts.map fun text => (chunks ':' text.toList).map String.ofList
    if parts.all fun part => 2 < part.length then .error .severalParts
    else .ok (some (parts.map fun part => part.headD "", some (parts.map fun part => part[1]?)))

/-- A port is a number; an empty one is none. -/
def isPort (port : Option String) : Bool :=
  match port with
  | none => true
  | some text => text.isEmpty || (readInteger text).toOption.isSome

def checkPostgresql (address : Address) : Except AddressFault Unit := do
  let hosts ← readHosts address.choices
  let beside := hosts.bind (·.2)
  let apart ← match address.choices.all "port" with
    | [] => pure none
    | ports =>
      if beside.isSome then throw .portsTwice
      match ports with
      | [text] => pure (some ((chunks ',' text.toList).map fun port => some (String.ofList port)))
      | ports => pure (some (ports.map some))
  match beside.or apart with
  | none => pure ()
  | some ports =>
    if !ports.all isPort then throw (.portsNotNumbers ports)
    let count := (hosts.map (·.1.length)).getD 0
    if count != ports.length && (1 < count || 1 < ports.length) then
      throw .unequalHostsAndPorts

end Address

/-! ## Engines -/

/-- The pool for an address of SQLite, given as it is written. -/
def sqlitePool (text : String) (address : Address) : Pool :=
  if occurs memoryPlace.toList text.toList || text = "sqlite://" || text = "sqlite+pysqlite://" then
    .shared
  else if address.namesFile then .queue
  else .byThread

/-- The extensions that an address asks for; there are none. -/
def checkExtensions (address : Address) : Except AddressFault Unit :=
  match address.choices.all "plugin" with
  | [] => .ok ()
  | name :: _ => .error (.unknownExtension "plugins" name)

def Engine.ofAddress (poolSize : Int) (text : String) : Except AddressFault Engine := do
  let address ← Address.read text
  checkExtensions address
  let driver ← Driver.ofScheme address.scheme
  match driver.dialect with
  | .sqlite => do
    address.checkSqlite
    pure ⟨.sqlite, driver.name, sqlitePool text address, none, false, address.sqliteStore⟩
  | .postgresql => do
    address.checkPostgresql
    let pool := if driver = .psycopgAsync then Pool.waitingQueue else .queue
    pure ⟨.postgresql, driver.name, pool, some poolSize, true, .server⟩

def Engine.of (poolSize : Int) (address : String) : Except Failure Engine :=
  (Engine.ofAddress poolSize (normalize address)).mapError .address

end FarmLedger.Config
