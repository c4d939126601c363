/-
# OwnerCache.Main -- the command line

Reads the environment and the arguments, runs over them, prints the lines and
logs the events.  The cache lives as long as the process, as if its file were new
each time, and no transport is built in: every exchange with a provider ends
without an answer, so beyond the special-purpose networks nothing new is learned.
-/
import OwnerCache.CommandLine
import OwnerCache.Store.Location

open OwnerCache

set_option autoImplicit false

namespace OwnerCache.Main

/-- The variables that a configuration is read from. -/
def variableNames : List String :=
  ["ISPR_DB_PATH", "ISPR_ACCEPTED_RANGE_LENGTH", "ISPR_RANGE_TTL_SECS", "ISPR_WHOIS_TIMEOUT_SECS",
    "ISPR_RDAP_URL", "ISPR_SWEEP_ENABLED", "ISPR_SWEEP_INTERVAL_SECS", "DEBUG"]

def environment : IO Environment := do
  let values ← variableNames.mapM fun name => return (name, ← IO.getEnv name)
  return fun name =>
    match values.lookup name with
    | some (some value) => .text value
    | _ => .unset

/-- No provider is reached. -/
def send (_ : Rdap.Request) : IO Rdap.Exchange := return .noAnswer

/-- A monotonic clock, which is enough for a cache that lives as long as the process. -/
def clock : IO Instant := do
  let nanos ← IO.monoNanosNow
  return (Instant.ofNanos? nanos).getD default

/-- No file is there yet. -/
def disk : Location.Disk := { directory := [], look := fun _ => .vacant }

/-- The store that a configuration names. -/
def store (config : Config) : Except StoreError (Refusing Durable) := do
  (← Location.ofText config.dbPath).connect config.dbPath disk

def printFailure (cause : StoreError) : IO Unit := IO.eprintln ("Error: " ++ cause.message)

/-- Run over arguments, print what the run printed, and give its exit code. -/
def runOver (config : Config) (arguments : List String) (s : Refusing Durable) : IO Nat := do
  let resolver := CommandLine.resolver config send clock
  let run ← CommandLine.run config resolver arguments s
  for event in CommandLine.logged config run.events do
    IO.eprintln event.text
  for line in run.lines do
    IO.println line
  if let some cause := run.failure then
    printFailure cause
  return run.exitCode

end OwnerCache.Main

def main (arguments : List String) : IO UInt32 := do
  let config := Config.load (← OwnerCache.Main.environment)
  match OwnerCache.Main.store config with
  | .ok s => return (← OwnerCache.Main.runOver config arguments s).toUInt32
  | .error cause =>
    OwnerCache.Main.printFailure cause
    return 1
