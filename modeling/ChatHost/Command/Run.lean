import ChatHost.Command.Error
import ChatHost.Command.Line
import ChatHost.Invitation
import ChatHost.Server.Registry
import ChatHost.Text.Lines

/-!
# Running Commands

What each command does to the store, what it prints and what it logs.

A command goes on until something fails. What it has done, printed and logged
by then stays: a server that has been added is there even if no invitation to
it can be made out.

## Main definitions

* `Line`, `Event`: What is printed and what is logged.
* `Outcome`: What a command did.
* `Command.run`: Runs a command on a store.
-/

namespace ChatHost

/-- Something that is printed, by itself. -/
inductive Line
  /-- A server and the invitation to it. -/
  | invitation (invitation : Invitation)
  /-- A user of a server. -/
  | user (record : UserRecord)
  /-- The role that a user has now. -/
  | newRole (username : String) (role : Role) (server : ServerId)
  deriving DecidableEq

/-- The text of a line. -/
def Line.text : Line → String
  | .invitation i => i.server.toNat.repr ++ "\t" ++ i.code
  | .user record =>
    record.id.toNat.repr ++ "\t" ++ record.username.text ++ "\t" ++ record.ip.toText ++ "\t" ++
      record.role.text
  | .newRole username role server =>
    username ++ " is now " ++ role.text ++ " on server " ++ server.toNat.repr

/-- The lines that a text takes. There are several only if a name of a user has
    line breaks in it. -/
def Line.rows (line : Line) : List String := Text.lines line.text

/-- Something that is logged while servers are run. -/
inductive Event
  | usingMemory
  | registered (loaded created : Nat)
  | noneRegistered
  | running (started known : Nat)
  | interrupted
  | stopped (count : Nat)
  deriving DecidableEq

/-- The text of an event. -/
def Event.message : Event → String
  | usingMemory => "Using in-memory store"
  | registered _ _ => "Hosted servers registered"
  | noneRegistered =>
    "No hosted servers registered; use `create-server` or `--create` first"
  | running _ _ => "Hosted servers running"
  | interrupted => "Shutdown signal received"
  | stopped _ => "Hosted servers stopped"

/-- The numbers of an event, by name. -/
def Event.fields : Event → List (String × Nat)
  | usingMemory | noneRegistered | interrupted => []
  | registered loaded created => [("loaded", loaded), ("created", created)]
  | running started known => [("started", started), ("registered", known)]
  | stopped count => [("stopped", count)]

/-- What a command did, apart from what it did to the store. -/
structure Outcome where
  lines : List Line := []
  events : List Event := []
  result : Except CommandError Unit := .ok ()

/-- How a program ends that has run a command. -/
def Outcome.exitCode (outcome : Outcome) : UInt8 :=
  match outcome.result with
  | .ok () => 0
  | .error _ => 1

namespace Outcome

/-- A command that failed at once. -/
def failed (error : CommandError) : Outcome := { result := .error error }

/-- An outcome with events that were logged before. -/
def after (events : List Event) (outcome : Outcome) : Outcome :=
  { outcome with events := events ++ outcome.events }

end Outcome

namespace Command

/-- The invitation to a server at the address that the settings advertise. -/
def invitationTo (config : HostConfig) (server : ServerId) : Except CommandError Invitation :=
  match Ip.parse? config.advertiseHost with
  | none =>
    .error (.invalidInput
      ("ADVERTISE_HOST '" ++ config.advertiseHost ++ "' is not an IP address"))
  | some host =>
    match Invitation.forServer host server with
    | .ok invitation => .ok invitation
    | .error error => .error (.invalidInput error.message)

/-- Prints invitations to servers until one cannot be made out. -/
def invitations (config : HostConfig) : List ServerId → Outcome
  | [] => {}
  | id :: rest =>
    match invitationTo config id with
    | .error error => .failed error
    | .ok invitation =>
      let outcome := invitations config rest
      { outcome with lines := .invitation invitation :: outcome.lines }

variable {σ : Type} [Gateway σ]

/-- What is logged when the wait for an interrupt is over, and how the command ends then.
    The wait fails if the host cannot tell of interrupts. -/
def endRunning (registry : Registry) (interrupt : Except String Unit) :
    List Event × Except CommandError Unit :=
  match interrupt with
  | .error reason => ([], .error (.internal reason))
  | .ok () => ([.interrupted, .stopped registry.stopAll.1], .ok ())

/-- Runs all servers until interrupted. `lots` are those for the ids of new
    servers; nobody else has an address of this host, and nobody turns to the
    servers while they run. -/
def runServe (config : HostConfig) (settings : ServerSettings) (lots : Nat → List ServerId)
    (interrupt : Except String Unit) (create : Nat) (store : σ) : Outcome × σ :=
  match (Registry.mk settings []).bootstrap store lots create with
  | (.error fault, store, _) => (.failed (.fault fault), store)
  | (.ok boot, store, registry) =>
    let printed := invitations config boot.created
    let registered := Event.registered boot.loaded boot.created.length
    match printed.result with
    | .error _ => (printed.after [registered], store)
    | .ok () =>
      let (started, registry) := registry.startAll store (fun _ => false) 0
      let empty := if registry.isEmpty then [Event.noneRegistered] else []
      let (last, result) := endRunning registry interrupt
      ({ printed with result }.after
        (registered :: empty ++ Event.running started registry.size :: last), store)

/-- Adds a server. -/
def runCreateServer (config : HostConfig) (settings : ServerSettings)
    (lots : Nat → List ServerId) (store : σ) : Outcome × σ :=
  match (Registry.mk settings []).load store with
  | (.error fault, _) => (.failed (.fault fault), store)
  | (.ok _, registry) =>
    match registry.create store (lots 0) with
    | (.error fault, store, _) => (.failed (.fault fault), store)
    | (.ok id, store, _) => (invitations config [id], store)

/-- Lists the servers with their invitations. -/
def runListServers (config : HostConfig) (settings : ServerSettings) (store : σ) : Outcome :=
  match (Registry.mk settings []).load store with
  | (.error fault, _) => .failed (.fault fault)
  | (.ok _, registry) => invitations config registry.ids

/-- Gives a user of a server a role. -/
def runSetRole (server : ServerId) (username : String) (role : Role) (store : σ) : Outcome × σ :=
  match Gateway.updateRole store server username role with
  | (.error fault, store) => (.failed (.fault fault), store)
  | (.ok false, store) =>
    (.failed (.notFound ("user '" ++ username ++ "' on server " ++ server.toNat.repr)), store)
  | (.ok true, store) => ({ lines := [.newRole username role server] }, store)

/-- Lists the users of a server, or those with a role. -/
def runListUsers (server : ServerId) (role : Option Role) (store : σ) : Outcome :=
  match Gateway.selectUsers store { server := some server, role } with
  | .error fault => .failed (.fault fault)
  | .ok users => { lines := users.map .user }

/-- Runs a command on a store. `interrupt` is how the wait for an interrupt ends. -/
def run (command : Command) (config : HostConfig) (settings : ServerSettings)
    (lots : Nat → List ServerId) (interrupt : Except String Unit) (store : σ) : Outcome × σ :=
  match command with
  | serve memory create =>
    runServe config settings lots interrupt (create.getD (if memory then 1 else 0)) store
  | createServer => runCreateServer config settings lots store
  | listServers => (runListServers config settings store, store)
  | setRole server username role => runSetRole server username role store
  | listUsers server role => (runListUsers server role store, store)

/-- Whether a command wants a store in memory. -/
def wantsMemory : Command → Bool
  | serve memory _ => memory
  | _ => false

end Command

end ChatHost
