/-
# FarmLedger.Command.Disk — what outlives a command

Databases in files and on servers outlive a command, those in memory do not. A file is known by
its path, in which empty steps, steps to where one is, and steps back with the step before them do
not count. A file has to be in a directory that there is, and must not be a directory itself.
-/
import FarmLedger.Config.Engine
import FarmLedger.Storage.Database

namespace FarmLedger.Command

open FarmLedger.Config FarmLedger.Text

structure Path where
  /-- It starts at the root. -/
  fromRoot : Bool
  steps : List String
  deriving DecidableEq, Repr

namespace Path

/-- One more step; a step back undoes the one before it, and leads nowhere from the root. -/
def walk (path : Path) (step : String) : Path :=
  if step = "" || step = "." then path
  else if step != ".." then { path with steps := path.steps ++ [step] }
  else if path.steps.isEmpty && path.fromRoot then path
  else if path.steps.isEmpty || path.steps.getLast? = some ".." then
    { path with steps := path.steps ++ [step] }
  else { path with steps := path.steps.dropLast }

def ofText (text : String) : Path :=
  ((chunks '/' text.toList).map String.ofList).foldl walk ⟨text.startsWith "/", []⟩

def directory (path : Path) : Path :=
  { path with steps := path.steps.dropLast }

end Path

/-- Where a database is kept. -/
inductive Place
  | file (path : Path)
  | server
  deriving DecidableEq, Repr

/-- The place of rows that outlive a command. -/
def placeOf : Store → Option Place
  | .memory => none
  | .file path => some (.file (.ofText path))
  | .server => some .server

/-- What outlives a command. -/
structure Disk where
  databases : List (Place × Database) := []
  /-- The directories that there are; while they are not known, there is one for every file. -/
  directories : Option (List Path) := none

namespace Disk

/-- A database can be kept at a place. -/
def reaches (disk : Disk) : Option Place → Bool
  | some (.file path) =>
    disk.directories.all fun directories =>
      directories.contains path.directory && !directories.contains path
  | _ => true

def database (disk : Disk) (place : Option Place) : Database :=
  (place.bind fun place => disk.databases.lookup place).getD .empty

def keep (disk : Disk) (place : Option Place) (database : Database) : Disk :=
  match place with
  | none => disk
  | some place =>
    { disk with databases := (place, database) :: disk.databases.filter (·.1 != place) }

end Disk

end FarmLedger.Command
