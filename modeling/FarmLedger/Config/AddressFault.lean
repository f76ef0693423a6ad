/-
# FarmLedger.Config.AddressFault — why an address leads nowhere

An address may not be readable, may name a dialect or a driver that there is not or that lacks its
library, and may carry options that its driver does not understand.
-/
import FarmLedger.Number.Numeral

namespace FarmLedger

open FarmLedger.Number FarmLedger.Text

/-- Why there is no connection to an address. -/
inductive AddressFault
  | unreadable
  /-- The port is no number. -/
  | port (fault : NumeralFault)
  /-- More than one driver is named, or a host with more than one port. -/
  | severalParts
  /-- There is no extension of a name in a group of extensions. -/
  | unknownExtension (group name : String)
  /-- The library of a driver is missing. -/
  | missingLibrary (name : String)
  /-- A database in a file has no server; the address is shown without its password. -/
  | serverOfFile (shown : String)
  /-- An option is neither true nor false. -/
  | notATruth (text : String)
  /-- An option is no number. -/
  | notANumber (fault : ScalarFault)
  /-- There are options for a file, and no file. -/
  | optionsWithoutFile
  /-- Ports are given with the hosts and apart from them. -/
  | portsTwice
  | portsNotNumbers (ports : List (Option String))
  | unequalHostsAndPorts
  deriving DecidableEq, Repr

/-- Texts in parentheses, with a comma after a single one. -/
def inTuple (items : List (Option String)) : String :=
  match items with
  | [item] => "(" ++ quote? item ++ ",)"
  | items => "(" ++ ", ".intercalate (items.map quote?) ++ ")"

def AddressFault.message : AddressFault → String
  | unreadable => "Could not parse SQLAlchemy URL from given URL string"
  | port fault => fault.message
  | severalParts => "too many values to unpack (expected 2)"
  | unknownExtension group name => "Can\x27t load plugin: sqlalchemy." ++ group ++ ":" ++ name
  | missingLibrary name => "No module named \x27" ++ name ++ "\x27"
  | serverOfFile shown =>
    "Invalid SQLite URL: " ++ shown ++ "\nValid SQLite URL forms are:\n"
      ++ " sqlite:///:memory: (or, sqlite://)\n"
      ++ " sqlite:///relative/path/to/file.db\n"
      ++ " sqlite:////absolute/path/to/file.db"
  | notATruth text => "String is not true/false: " ++ quote text
  | notANumber fault => fault.message
  | optionsWithoutFile => "unsupported operand type(s) for +=: \x27NoneType\x27 and \x27str\x27"
  | portsTwice =>
    "Can\x27t mix \x27multihost\x27 formats together; use \x22host=h1,h2,h3&port=p1,p2,p3\x22 or "
      ++ "\x22host=h1:p1&host=h2:p2&host=h3:p3\x22 separately"
  | portsNotNumbers ports => "Received non-integer port arguments: " ++ inTuple ports
  | unequalHostsAndPorts => "number of hosts and ports don\x27t match"

end FarmLedger
