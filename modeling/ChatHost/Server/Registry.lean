import ChatHost.Server.Hosted

/-!
# The Registry

All hosted servers of this host. Each is in the store too, and the store may
hold more: those that other programs have added since it was read last.

A new server gets an id by lot, because the id is its port, which should be
hard to guess. A lot that falls on a server of this registry or of the store is
void, and after `maxDraws` lots the attempt is given up.

## Main definitions

* `Registry`: The hosted servers of this host.
* `Registry.load`: Registers the servers of the store.
* `Registry.create`, `Registry.bootstrap`: New servers.
* `Registry.startAll`, `Registry.stopAll`: Starts and stops them.
-/

namespace ChatHost

/-- The hosted servers of this host, in ascending order of their ids. -/
structure Registry where
  settings : ServerSettings
  servers : List Hosted := []

namespace Registry

/-- The ids of new servers start here; the ports below are the system's. -/
def minServerId : ServerId := 1024

/-- How many lots are drawn for the id of a new server. -/
def maxDraws : Nat := 64

/-- The failure to find an id for a new server. -/
def noFreeId : Fault := .internal "no free hosted server id found"

/-- Lots for the id of a new server, drawn from a seed. -/
def lotsOfSeed (seed : Nat) : List ServerId :=
  drawn maxDraws (mkStdGen seed)
where
  /-- So many lots. -/
  drawn : Nat → StdGen → List ServerId
  | 0, _ => []
  | count + 1, gen =>
    let (lot, gen) := randNat gen minServerId.toNat 65535
    UInt16.ofNat lot :: drawn count gen

/-- The server with a given id. -/
def find? (r : Registry) (id : ServerId) : Option Hosted :=
  r.servers.find? fun h => decide (h.id = id)

/-- Whether a server is registered. -/
def contains (r : Registry) (id : ServerId) : Bool := (r.find? id).isSome

/-- The ids of all servers. -/
def ids (r : Registry) : List ServerId := r.servers.map (·.id)

/-- How many servers are registered. -/
def size (r : Registry) : Nat := r.servers.length

/-- Whether no server is registered. -/
def isEmpty (r : Registry) : Bool := r.servers.isEmpty

/-- Puts a server into a list that ascends by id, in place of one with this id. -/
def insertServer (h : Hosted) : List Hosted → List Hosted
  | [] => [h]
  | other :: rest =>
    if h.id < other.id then h :: other :: rest
    else if h.id = other.id then h :: rest
    else other :: insertServer h rest

/-- Registers a server, stopped. -/
def add (r : Registry) (id : ServerId) : Registry :=
  { r with servers := insertServer { id, settings := r.settings } r.servers }

/-- Puts a changed server in its place. -/
def update (r : Registry) (h : Hosted) : Registry :=
  { r with servers := r.servers.map fun other => if other.id = h.id then h else other }

/-- Registers those of some servers that are not registered yet, and counts them. -/
def addMissing (r : Registry) : List ServerId → Nat × Registry
  | [] => (0, r)
  | id :: rest =>
    if r.contains id then r.addMissing rest
    else
      let (added, r) := (r.add id).addMissing rest
      (added + 1, r)

variable {σ : Type} [Gateway σ]

/-- Registers the servers of the store, and counts those that are new. -/
def load (r : Registry) (store : σ) : Except Fault Nat × Registry :=
  match Gateway.selectServers store none with
  | .error fault => (.error fault, r)
  | .ok ids =>
    let (added, r) := r.addMissing ids
    (.ok added, r)

/-- Draws lots for a new server until one is not void. -/
def draw (r : Registry) (store : σ) : List ServerId → Except Fault ServerId × σ × Registry
  | [] => (.error noFreeId, store, r)
  | id :: rest =>
    if r.contains id then r.draw store rest
    else
      match Gateway.insertServer store id with
      | (.ok _, store) => (.ok id, store, r.add id)
      -- Another program has added this one since the store was read.
      | (.error (.serverExists _), store) => r.draw store rest
      | (.error fault, store) => (.error fault, store, r)

/-- Adds a new server to the store and the registry. -/
def create (r : Registry) (store : σ) (lots : List ServerId) :
    Except Fault ServerId × σ × Registry :=
  r.draw store (lots.take maxDraws)

/-- Adds new servers, one for each sheet of lots, until one fails. -/
def createAll (r : Registry) (store : σ) (lots : Nat → List ServerId) :
    (count : Nat) → Except Fault (List ServerId) × σ × Registry
  | 0 => (.ok [], store, r)
  | count + 1 =>
    match r.create store (lots count) with
    | (.error fault, store, r) => (.error fault, store, r)
    | (.ok id, store, r) =>
      let (ids, store, r) := r.createAll store lots count
      (ids.map (id :: ·), store, r)

/-- What bootstrapping did. -/
structure Bootstrap where
  loaded : Nat
  created : List ServerId
  deriving DecidableEq

/-- Registers the servers of the store, and then adds `count` new ones. -/
def bootstrap (r : Registry) (store : σ) (lots : Nat → List ServerId) (count : Nat) :
    Except Fault Bootstrap × σ × Registry :=
  match r.load store with
  | (.error fault, r) => (.error fault, store, r)
  | (.ok loaded, r) =>
    let (created, store, r) := r.createAll store lots count
    (created.map fun created => ⟨loaded, created⟩, store, r)

/-- Starts every server of a list that is stopped, and counts those that run
    then. One that does not start does not keep others from it. -/
def startEach (store : σ) (isTaken : SocketAddress → Bool) (now : Instant) :
    List Hosted → Nat × List Hosted
  | [] => (0, [])
  | h :: rest =>
    let (started, rest) := startEach store isTaken now rest
    if h.isRunning then (started, h :: rest)
    else
      match h.start store (isTaken h.address) now with
      | (.ok (), h) => (started + 1, h :: rest)
      | (.error _, h) => (started, h :: rest)

/-- Starts every server that is stopped, and counts those that run then. -/
def startAll (r : Registry) (store : σ) (isTaken : SocketAddress → Bool) (now : Instant) :
    Nat × Registry :=
  let (started, servers) := startEach store isTaken now r.servers
  (started, { r with servers := servers })

/-- Stops every server of a list that runs, and counts them. -/
def stopEach : List Hosted → Nat × List Hosted
  | [] => (0, [])
  | h :: rest =>
    let (stopped, rest) := stopEach rest
    match h.stop with
    | (.ok (), h) => (stopped + 1, h :: rest)
    | (.error _, h) => (stopped, h :: rest)

/-- Stops every server that runs, and counts them. -/
def stopAll (r : Registry) : Nat × Registry :=
  let (stopped, servers) := stopEach r.servers
  (stopped, { r with servers := servers })

/-- Starts one server, if it is registered. -/
def start? (r : Registry) (store : σ) (id : ServerId) (isTaken : SocketAddress → Bool)
    (now : Instant) : Option (Except LifecycleError Unit) × Registry :=
  match r.find? id with
  | none => (none, r)
  | some h =>
    let (result, h) := h.start store (isTaken h.address) now
    (some result, r.update h)

/-- Stops one server, if it is registered. -/
def stop? (r : Registry) (id : ServerId) : Option (Except LifecycleError Unit) × Registry :=
  match r.find? id with
  | none => (none, r)
  | some h =>
    let (result, h) := h.stop
    (some result, r.update h)

end Registry

end ChatHost
