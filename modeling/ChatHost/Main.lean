import ChatHost.Command.Program

/-!
# The Program's Outer Layer

Hands arguments, environment and lots to `Program.call`, and prints what comes
back: lines and events to the standard output, complaints to the standard error
output. The databases of one process live in memory, and interrupts are taken to come.
-/

namespace ChatHost

/-- The variables that the settings come from. -/
def variableNames : List String :=
  ["APP_ENV", "APP_NAME", "BIND_HOST", "ADVERTISE_HOST", "DATABASE_URL",
    "DATABASE_MAX_CONNECTIONS", "BROADCAST_TICK_MS", "HEARTBEAT_STALE_SECS",
    "HEARTBEAT_TIMEOUT_MS", "LOG_FORMAT"]

/-- Reads the variables that the settings come from. -/
def readVariables : IO (List (String × String)) :=
  variableNames.filterMapM fun name => do
    return (← IO.getEnv name).map fun value => (name, value)

/-- The text of an event in the log. -/
def eventText (event : Event) : String :=
  event.fields.foldl (fun text (name, value) => text ++ " " ++ name ++ "=" ++ value.repr)
    event.message

/-- Prints the end of a call. -/
def printEnding (ending : Ending) : IO Unit := do
  match ending.complaint with
  | some complaint => IO.eprintln complaint
  | none => pure ()
  for line in ending.outcome.lines do
    IO.println line.text
  for event in ending.outcome.events do
    IO.println (eventText event)
  match ending.outcome.result with
  | .ok () => pure ()
  | .error error => IO.eprintln ("Command failed: " ++ error.message)

end ChatHost

/-- Runs the program. -/
def main (arguments : List String) : IO UInt32 := do
  let entries ← ChatHost.readVariables
  let seed ← IO.rand 0 0xFFFFFFFF
  let lookup := fun name => (entries.find? fun entry => entry.1 = name).map (·.2)
  let lots := fun i => ChatHost.Registry.lotsOfSeed (seed + i)
  let (ending, _) := ChatHost.Program.call .bare lookup lots (.ok ()) arguments
  ChatHost.printEnding ending
  return ending.exitCode.toUInt32
