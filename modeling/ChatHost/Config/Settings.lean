import ChatHost.Address.Parser
import ChatHost.Address.Basic
import ChatHost.Config.Environment
import ChatHost.Record
import ChatHost.Text.Blank
import ChatHost.Text.Numeral

/-!
# Settings

How a host is set up by the variables of its environment.

A variable that is not set has a default. One that is set must have a value
that can be read; blanks around numbers and words are ignored, and a number
that measures something to wait for or to have must not be zero. The variables
are judged in a fixed order, and the first that is wrong is reported with its
value as it stands there.

The addresses are kept as they are written. Whether the one to listen on is an
address is only asked when servers are to be run, and whether the one to
advertise is, only when an invitation is made out.

## Main definitions

* `HostConfig`: Everything that can be set.
* `HostConfig.ofLookup`: Reads the variables.
* `Timing`: How a server measures time.
* `ServerSettings`: What servers are run with.
-/

namespace ChatHost

/-- Why a host is not set up. -/
inductive ConfigError
  /-- A variable has a value that cannot be read. -/
  | invalidValue (key raw : String)
  deriving DecidableEq

/-- The wording of an error. -/
def ConfigError.message : ConfigError → String
  | invalidValue key raw => "Invalid value for " ++ key ++ ": " ++ raw

/-- Everything that can be set. -/
structure HostConfig where
  appName : String
  environment : Environment
  /-- The address that servers listen on. -/
  bindHost : String
  /-- The address that invitations give. -/
  advertiseHost : String
  databaseUrl : String
  maxConnections : Nat
  tickMs : Nat
  heartbeatStaleSecs : Nat
  heartbeatTimeoutMs : Nat
  logFormat : LogFormat
  deriving DecidableEq

namespace HostConfig

/-- The variables of an environment. -/
abbrev Lookup := String → Option String

/-- The value of a variable, read without the blanks around it, or its default
    if it is not set. -/
def read {α : Type} (lookup : Lookup) (key : String) (parse? : String → Option α)
    (default : α) : Except ConfigError α :=
  match lookup key with
  | none => .ok default
  | some raw =>
    match parse? (Text.trim raw) with
    | some value => .ok value
    | none => .error (.invalidValue key raw)

/-- The value of a variable that is a number and not zero. -/
def readPositive (lookup : Lookup) (key : String) (bound default : Nat) :
    Except ConfigError Nat := do
  let value ← read lookup key (Text.unsigned? bound) default
  -- The value is reported as the number that it is, not as it was written.
  if value = 0 then .error (.invalidValue key "0") else .ok value

/-- The largest number of 32 bits. -/
def max32 : Nat := 0xFFFFFFFF

/-- The largest number of 64 bits. -/
def max64 : Nat := 0xFFFFFFFFFFFFFFFF

/-- The database of a host that does not set one: a file beside the program. -/
def standardDatabase : String := "sqlite://huddle.db?mode=rwc"

/-- Reads the variables. -/
def ofLookup (lookup : Lookup) : Except ConfigError HostConfig := do
  let environment ←
    read lookup "APP_ENV" (fun s => (Environment.ofText s).toOption) .development
  let bindHost := (lookup "BIND_HOST").getD "127.0.0.1"
  let advertiseHost := (lookup "ADVERTISE_HOST").getD bindHost
  let appName := (lookup "APP_NAME").getD "huddle"
  let databaseUrl := (lookup "DATABASE_URL").getD standardDatabase
  let maxConnections ← readPositive lookup "DATABASE_MAX_CONNECTIONS" max32 5
  let tickMs ← readPositive lookup "BROADCAST_TICK_MS" max64 200
  let heartbeatStaleSecs ← read lookup "HEARTBEAT_STALE_SECS" (Text.unsigned? max64) 60
  let heartbeatTimeoutMs ← readPositive lookup "HEARTBEAT_TIMEOUT_MS" max64 5000
  let logFormat ←
    read lookup "LOG_FORMAT" (fun s => (LogFormat.ofText s).toOption) (.standard environment)
  return { appName, environment, bindHost, advertiseHost, databaseUrl, maxConnections, tickMs,
           heartbeatStaleSecs, heartbeatTimeoutMs, logFormat }

/-- Where a server listens, as a text. -/
def addressText (config : HostConfig) (server : ServerId) : String :=
  config.bindHost ++ ":" ++ server.toNat.repr

/-- How long a connection to the database may be waited for, in milliseconds. -/
def acquireTimeoutMs : Nat := 10000

end HostConfig

/-- How a server measures time, in milliseconds. -/
structure Timing where
  /-- From one tick to the next. -/
  tick : Nat
  /-- How long a user may be silent before they are asked. -/
  staleAfter : Nat
  /-- How long an answer is waited for. -/
  heartbeatTimeout : Nat
  deriving DecidableEq

/-- What servers are run with. -/
structure ServerSettings where
  /-- The address that servers listen on, each at its id as port. -/
  bindHost : Ip
  timing : Timing
  deriving DecidableEq

/-- What servers are run with under some settings. -/
def HostConfig.serverSettings (config : HostConfig) : Except ConfigError ServerSettings :=
  match Ip.parse? config.bindHost with
  | none => .error (.invalidValue "BIND_HOST" config.bindHost)
  | some bindHost =>
    .ok { bindHost,
          timing :=
            { tick := config.tickMs, staleAfter := config.heartbeatStaleSecs * 1000,
              heartbeatTimeout := config.heartbeatTimeoutMs } }

end ChatHost
