import ChatHost.Link.Client
import ChatHost.Server.Registry

/-!
# The Host

The registry with its store, among the other programs of the host, which may
have the ports that its servers want.

## Main definitions

* `Host`: A store, a registry, and the ports that others have.
* `Host.startAll`, `Host.start?`: Starts servers where their ports are free.
* `Host.bootstrap`, `Host.create`: New servers, by lot.
-/

namespace ChatHost

/-- A store, a registry, and the ports that others have. -/
structure Host (σ : Type) where
  store : σ
  registry : Registry
  /-- The ports that other programs have. -/
  taken : List UInt16 := []
  /-- How many sheets of lots were used up. -/
  sheets : Nat := 0

namespace Host

variable {σ : Type} [Gateway σ]

/-- Whether another program has an address. -/
def isTaken (host : Host σ) (address : SocketAddress) : Bool :=
  host.taken.contains address.port

/-- Another program takes a port, unless someone has it. -/
def block (host : Host σ) (port : UInt16) : Except ClientError Unit × Host σ :=
  if host.taken.contains port || (host.registry.find? port).any (·.isRunning) then
    (.error (.refused Network.addressInUse), host)
  else (.ok (), { host with taken := port :: host.taken })

/-- A port is free again, or all are. -/
def unblock (host : Host σ) : Option UInt16 → Host σ
  | none => { host with taken := [] }
  | some port => { host with taken := host.taken.filter (· != port) }

/-- Registers the servers of the store, and counts those that are new. -/
def load (host : Host σ) : Except Fault Nat × Host σ :=
  let (result, registry) := host.registry.load host.store
  (result, { host with registry := registry })

/-- Registers the servers of the store, and then adds `count` new ones. -/
def bootstrap (host : Host σ) (lots : Nat → List ServerId) (count : Nat) :
    Except Fault Registry.Bootstrap × Host σ :=
  let (result, store, registry) :=
    host.registry.bootstrap host.store (fun i => lots (host.sheets + i)) count
  (result, { host with store, registry, sheets := host.sheets + count })

/-- Adds a new server. -/
def create (host : Host σ) (lots : Nat → List ServerId) : Except Fault ServerId × Host σ :=
  let (result, store, registry) := host.registry.create host.store (lots host.sheets)
  (result, { host with store, registry, sheets := host.sheets + 1 })

/-- Starts every server that is stopped, and counts those that run then. -/
def startAll (host : Host σ) (now : Instant) : Nat × Host σ :=
  let (started, registry) := host.registry.startAll host.store host.isTaken now
  (started, { host with registry := registry })

/-- Stops every server that runs, and counts them. -/
def stopAll (host : Host σ) : Nat × Host σ :=
  let (stopped, registry) := host.registry.stopAll
  (stopped, { host with registry := registry })

/-- Starts one server, if it is registered. -/
def start? (host : Host σ) (id : ServerId) (now : Instant) :
    Option (Except LifecycleError Unit) × Host σ :=
  let (result, registry) := host.registry.start? host.store id host.isTaken now
  (result, { host with registry := registry })

/-- Stops one server, if it is registered. -/
def stop? (host : Host σ) (id : ServerId) : Option (Except LifecycleError Unit) × Host σ :=
  let (result, registry) := host.registry.stop? id
  (result, { host with registry := registry })

end Host

end ChatHost
