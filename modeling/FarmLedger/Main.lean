/-
# FarmLedger.Main — the command line

Runs one command of the operator: the settings come from the environment, the time from the
system's clock, and the database starts out empty. What the command prints goes to the standard
output; journal lines that matter enough for the log, and whatever stops the command, go to the
standard error.
-/
import FarmLedger.Command.Run
import Std.Time.DateTime.Timestamp

namespace FarmLedger.Command

open FarmLedger.Config FarmLedger.Time

def settingNames : List String := [
  "DATABASE_URL", "ANALYTICS_OOB_LIMIT", "MOVING_AVERAGE_WINDOW_SECONDS", "DB_POOL_SIZE",
  "INGEST_MAX_WORKERS", "LOG_LEVEL"]

/-- The line matters enough for a log of a level. -/
def isLogged (logLevel : String) (line : Line) : Bool :=
  knownLevels.idxOf line.level.name ≤ knownLevels.idxOf logLevel

/-- The moment that many microseconds after the beginning of the year 1970. -/
def clockAt (micros : Int) : Timestamp :=
  .ofUtc ((Moment.ofMicros? (Moment.epochDay * microsPerDay + micros)).getD ⟨0, by decide⟩)

def Finish.code : Finish → Nat
  | exit code _ => code
  | stopped .help => 0
  | stopped (.usage _) => 2
  | stopped (.failure _) => 1
  | failed _ => 1

/-- What a command says about its end: on the standard output, on the standard error. -/
def Finish.texts : Finish → String × String
  | exit _ output => (output, "")
  | stopped .help => ("", "")
  | stopped (.usage problem) => ("", "error: " ++ problem ++ "\n")
  | stopped (.failure failure) => ("", failure.message ++ "\n")
  | failed failure => ("", failure.message ++ "\n")

end FarmLedger.Command

open FarmLedger FarmLedger.Command

/-- Runs the command that the words ask for. -/
def main (words : List String) : IO UInt32 := do
  let environment ← settingNames.filterMapM fun name => do
    return (← IO.getEnv name).map fun value => (name, value)
  let now ← Std.Time.Timestamp.now
  let ran := run environment (clockAt (now.toNanosecondsSinceUnixEpoch.val / 1000)) {} words
  let logLevel := (Config.Environment.logLevel environment).toOption.getD ""
  for line in ran.journal.filter (isLogged logLevel) do
    IO.eprintln (line.channel.name ++ " - " ++ line.level.name ++ " - " ++ line.text)
  let (output, problem) := ran.finish.texts
  IO.print output
  IO.eprint problem
  return ran.finish.code.toUInt32
