/-
# FarmLedger.Config.Driver — what speaks to a database

A scheme names a dialect and perhaps one driver for it, with a plus sign between them; without a
driver the usual one of the dialect is meant. Many drivers are known by name, but only those whose
library is there can be used: the one for SQLite, and one for PostgreSQL in two forms.
-/
import FarmLedger.Config.AddressFault
import FarmLedger.Text.Parts
import FarmLedger.Time.Stored

namespace FarmLedger.Config

open FarmLedger.Text FarmLedger.Time

/-- The drivers that can be used. -/
inductive Driver
  | pysqlite
  | psycopg
  /-- The same for connections that are waited for in between. -/
  | psycopgAsync
  deriving DecidableEq, Repr

namespace Driver

def dialect : Driver → Dialect
  | pysqlite => .sqlite
  | psycopg | psycopgAsync => .postgresql

def name : Driver → String
  | pysqlite => "pysqlite"
  | psycopg | psycopgAsync => "psycopg"

end Driver

/-- What a name of a driver stands for. -/
inductive Support
  | usable (driver : Driver)
  /-- Its library is missing. -/
  | lacking (library : String)
  deriving DecidableEq, Repr

/-- The name that stands for the usual driver of a dialect. -/
def usualName : String := "base"

def mysqlDrivers : List (String × Support) := [
  (usualName, .lacking "MySQLdb"), ("mysqldb", .lacking "MySQLdb"),
  ("pymysql", .lacking "pymysql"), ("cymysql", .lacking "cymysql"),
  ("asyncmy", .lacking "asyncmy"), ("aiomysql", .lacking "aiomysql"),
  ("mariadbconnector", .lacking "mariadb"), ("mysqlconnector", .lacking "mysql"),
  ("pyodbc", .lacking "pyodbc")]

def knownDrivers : List (String × List (String × Support)) := [
  (Dialect.sqlite.name, [
    (usualName, .usable .pysqlite), ("pysqlite", .usable .pysqlite),
    ("aiosqlite", .lacking "aiosqlite"), ("pysqlcipher", .lacking "pysqlcipher3")]),
  (Dialect.postgresql.name, [
    (usualName, .usable .psycopg), ("psycopg", .usable .psycopg),
    ("psycopg_async", .usable .psycopgAsync), ("psycopg2", .lacking "psycopg2"),
    ("psycopg2cffi", .lacking "psycopg2cffi"), ("asyncpg", .lacking "asyncpg"),
    ("pg8000", .lacking "pg8000")]),
  ("mysql", mysqlDrivers),
  ("mariadb", mysqlDrivers),
  ("oracle", [
    (usualName, .lacking "oracledb"), ("oracledb", .lacking "oracledb"),
    ("oracledb_async", .lacking "oracledb"), ("cx_oracle", .lacking "cx_Oracle")]),
  ("mssql", [
    (usualName, .lacking "pyodbc"), ("pyodbc", .lacking "pyodbc"),
    ("aioodbc", .lacking "aioodbc"), ("pymssql", .lacking "pymssql"),
    ("mssqlpython", .lacking "mssql_python")])]

/-- What a scheme stands for. -/
def findDriver (scheme : String) : Except AddressFault Support :=
  let parts := (chunks '+' scheme.toList).map String.ofList
  let find (dialect driver : String) : Except AddressFault Support :=
    match ((knownDrivers.lookup dialect).getD []).lookup driver with
    | some support => .ok support
    | none => .error (.unknownExtension "dialects" (".".intercalate parts))
  match parts with
  | [dialect] => find dialect usualName
  | [dialect, driver] => find dialect driver
  | _ => .error .severalParts

def Driver.ofScheme (scheme : String) : Except AddressFault Driver := do
  match ← findDriver scheme with
  | .usable driver => pure driver
  | .lacking library => throw (.missingLibrary library)

end FarmLedger.Config
