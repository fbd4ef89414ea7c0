import ChatHost.Link.Client
import ChatHost.Server.Hosted

/-!
# A Server and its Clients

A hosted server on a network, with bare clients around it and its store behind
it.

Datagrams arrive at once. Time stands still until it is moved, by any amount in
one leap, and after everything that happens the server does all that is due
then. What is sent to a server that is stopped is lost.

## Main definitions

* `Site`: A hosted server, its store, its clients and the clock.
* `Site.start`, `Site.stop`, `Site.stopAndStart`: Its lifecycle.
* `Site.post`: A client sends a datagram.
* `Site.advance`: Time goes by.
-/

namespace ChatHost

/-- A hosted server, its store, its clients and the clock. -/
structure Site (σ : Type) where
  network : Network
  clock : Instant := 0
  store : σ
  hosted : Hosted
  clients : Clients := {}
  /-- Whether someone else has the address of the server. -/
  blocked : Bool := false

namespace Site

variable {σ : Type} [Gateway σ]

/-- The server has done something, and its datagrams arrive. -/
def after (site : Site σ) (outcome : List Datagram × σ × Hosted) : Site σ :=
  let (sent, store, hosted) := outcome
  { site with
    store := store, hosted := hosted
    clients := site.clients.deliverAll sent }

/-- The server does all that is due. -/
def settle (site : Site σ) : Site σ :=
  site.after (site.hosted.settle site.network site.store site.clock)

/-- Time goes by, in one leap. -/
def advance (site : Site σ) (ms : Nat) : Site σ :=
  settle { site with clock := site.clock + ms }

/-- Whether someone other than the clients has an address. -/
def isTaken (site : Site σ) (address : SocketAddress) : Bool :=
  decide (address = site.hosted.address) && (site.blocked || site.hosted.isRunning)

/-- Starts the server. -/
def start (site : Site σ) : Except LifecycleError Unit × Site σ :=
  let isTaken := site.blocked || site.clients.holds site.hosted.address
  let (result, hosted) := site.hosted.start site.store isTaken site.clock
  (result, settle { site with hosted := hosted })

/-- Stops the server. -/
def stop (site : Site σ) : Except LifecycleError Unit × Site σ :=
  let (result, hosted) := site.hosted.stop
  (result, { site with hosted := hosted })

/-- Stops and starts the server. -/
def stopAndStart (site : Site σ) :
    Except LifecycleError Unit × Except LifecycleError Unit × Site σ :=
  let (stopped, site) := site.stop
  let (started, site) := site.start
  (stopped, started, site)

/-- Gives the users of a name a role. -/
def setRole (site : Site σ) (username : String) (role : Role) : Except Fault Bool × Site σ :=
  let (result, store, hosted) := site.hosted.setRole site.store username role
  (result, { site with store := store, hosted := hosted })

/-- Someone else takes the address of the server, unless it is taken. -/
def block (site : Site σ) : Except ClientError Unit × Site σ :=
  if site.isTaken site.hosted.address || site.clients.holds site.hosted.address then
    (.error (.refused Network.addressInUse), site)
  else (.ok (), { site with blocked := true })

/-- Someone else gives the address of the server back. -/
def unblock (site : Site σ) : Site σ := { site with blocked := false }

/-- Opens a client, unless someone has its address. -/
def openClient (site : Site σ) (name : String) (address : SocketAddress) :
    Except ClientError Unit × Site σ :=
  match site.clients.openAt name address site.isTaken with
  | .error error => (.error error, site)
  | .ok clients => (.ok (), { site with clients := clients })

/-- What a client sends arrives, if the network takes it. -/
def post (site : Site σ) (sent : Except ClientError Datagram) :
    Except ClientError Unit × Site σ :=
  match sent with
  | .error error => (.error error, site)
  | .ok datagram =>
    (.ok (), site.after
      (site.hosted.receive site.network site.store site.clock datagram.source datagram.bytes))

/-- A client sends bytes to the server. -/
def clientRaw (site : Site σ) (name : String) (bytes : Bytes) :
    Except ClientError Unit × Site σ :=
  site.post (site.clients.sendRaw site.network name site.hosted.address bytes)

/-- A client sends a request to the server, in one frame. -/
def clientRequest (site : Site σ) (name : String) (correlation : UInt32) (payload : Bytes) :
    Except ClientError Unit × Site σ :=
  site.post
    (site.clients.sendRequest site.network name site.hosted.address correlation payload)

/-- A client answers the request of the server that it got last. -/
def clientAnswer (site : Site σ) (name : String) (payload : Bytes) :
    Except ClientError Unit × Site σ :=
  site.post (site.clients.sendAnswer site.network name payload)

/-- What the clients have got since the last time. -/
def collect (site : Site σ) : List (String × Frame) × Site σ :=
  let (received, clients) := site.clients.collect
  (received, { site with clients := clients })

end Site

end ChatHost
