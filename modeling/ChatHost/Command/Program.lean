import ChatHost.Command.Disk
import ChatHost.Command.Run

/-!
# The Program

One call of the program, from its arguments and the environment to its end.

Things are judged in a fixed order: the command line, the settings, the address
to listen on, the store, and then the command itself. A store in memory lasts
as long as the call; a database in a file outlives it.

## Main definitions

* `Ending`: How a call ended.
* `Program.call`: One call.
-/

namespace ChatHost

/-- How a call ended. -/
structure Ending where
  exitCode : UInt8
  /-- What is said if the settings cannot be read. -/
  complaint : Option String := none
  outcome : Outcome := {}

/-- The line that begins with what is said if the settings cannot be read. -/
def Ending.complaintLine (ending : Ending) : Option String :=
  ending.complaint.bind fun complaint => (Text.lines complaint).head?

namespace Program

/-- The end of a call whose command line is not a command. -/
def endWithUsage (usage : Usage) : Ending := { exitCode := usage.exitCode }

/-- The end of a call whose settings cannot be read. -/
def endWithComplaint (error : ConfigError) : Ending :=
  { exitCode := 1, complaint := some ("Failed to load configuration: " ++ error.message) }

/-- The end of a call whose command was run. -/
def endWithOutcome (outcome : Outcome) : Ending := { exitCode := outcome.exitCode, outcome }

/-- Runs a command on the store that the settings name. -/
def runOn (disk : Disk) (command : Command) (config : HostConfig) (settings : ServerSettings)
    (lots : Nat → List ServerId) (interrupt : Except String Unit) : Outcome × Disk :=
  match disk.connect config command.wantsMemory with
  | .error error => (.failed error, disk)
  | .ok (place, store) =>
    let (outcome, store) := command.run config settings lots interrupt store
    let before := if command.wantsMemory then [Event.usingMemory] else []
    (outcome.after before, disk.close place store)

/-- One call. -/
def call (disk : Disk) (lookup : HostConfig.Lookup) (lots : Nat → List ServerId)
    (interrupt : Except String Unit) (arguments : List String) : Ending × Disk :=
  match Command.ofArguments arguments with
  | .error usage => (endWithUsage usage, disk)
  | .ok command =>
    match HostConfig.ofLookup lookup with
    | .error error => (endWithComplaint error, disk)
    | .ok config =>
      match config.serverSettings with
      | .error error => (endWithOutcome (.failed (.config error)), disk)
      | .ok settings =>
        let (outcome, disk) := runOn disk command config settings lots interrupt
        (endWithOutcome outcome, disk)

end Program

end ChatHost
