import ChatHost.Server.Turn

/-!
# Hosted Servers

A server of this host, which is started and stopped as often as one likes.

A server that starts reads its users from the store and opens its socket; only
when both have worked does it run. A server that stops forgets everything but
its id and its settings, so that it starts afresh the next time.

## Main definitions

* `LifecycleError`: Why a server did not start or stop.
* `Hosted`: A server of this host.
* `Hosted.start`, `Hosted.stop`: Its lifecycle.
* `Hosted.act`: What it does at one instant, if it runs.
* `Hosted.arrive`, `Hosted.handleNext`, `Hosted.settle`: Takes a datagram in, takes a packet
  out of its inbox, and does what is due.
* `Hosted.setRole`: Gives a user of the server a role.
-/

namespace ChatHost

/-- Why a server did not start or stop. -/
inductive LifecycleError
  | alreadyRunning (server : ServerId)
  | notRunning (server : ServerId)
  /-- Its socket cannot be opened. -/
  | bind (address : SocketAddress) (error : LinkError)
  /-- Its users cannot be read. -/
  | persistence (fault : Fault)
  deriving DecidableEq

/-- The wording of a cause. -/
def LifecycleError.message : LifecycleError → String
  | alreadyRunning server => "Hosted server " ++ server.toNat.repr ++ " is already running"
  | notRunning server => "Hosted server " ++ server.toNat.repr ++ " is not running"
  | bind address error => "Failed to bind " ++ address.toText ++ ": " ++ error.message
  | persistence fault => "Failed to load users: " ++ fault.message

/-- A server of this host. -/
structure Hosted where
  id : ServerId
  settings : ServerSettings
  live : Live := .idle
  session : Option Session := none

namespace Hosted

/-- Whether a server runs. -/
def isRunning (h : Hosted) : Bool := h.session.isSome

/-- Where a server listens while it runs. -/
def address (h : Hosted) : SocketAddress := { ip := h.settings.bindHost, port := h.id }

/-- The word for whether a server runs. -/
def statusText (h : Hosted) : String := if h.isRunning then "running" else "stopped"

/-- Starts a server. Its first tick is due at once. `isTaken` says whether
    someone else has its address. -/
def start {σ : Type} [Gateway σ] (h : Hosted) (store : σ) (isTaken : Bool) (now : Instant) :
    Except LifecycleError Unit × Hosted :=
  if h.isRunning then (.error (.alreadyRunning h.id), h)
  else
    match Gateway.selectUsers store { server := some h.id } with
    | .error fault => (.error (.persistence fault), h)
    | .ok users =>
      -- The socket comes last, so that a server whose users cannot be read leaves
      -- no open socket behind.
      if isTaken then (.error (.bind h.address (.io Network.addressInUse)), h)
      else
        (.ok (), { h with
          live := .start users now
          session := some { endpoint := { address := h.address }, due := now } })

/-- Stops a server. -/
def stop (h : Hosted) : Except LifecycleError Unit × Hosted :=
  if h.isRunning then (.ok (), { h with live := .idle, session := none })
  else (.error (.notRunning h.id), h)

/-- Gives every user of a name a role, in the store and, if there is one, in
    what is known of the users who are there. -/
def setRole {σ : Type} [Gateway σ] (h : Hosted) (store : σ) (username : String) (role : Role) :
    Except Fault Bool × σ × Hosted :=
  match Gateway.updateRole store h.id username role with
  | (.error fault, store) => (.error fault, store, h)
  | (.ok false, store) => (.ok false, store, h)
  | (.ok true, store) =>
    let presence := h.live.presence.setRole username role
    (.ok true, store, { h with live := { h.live with presence := presence } })

/-- What a server does at one instant. One that is stopped does nothing. -/
def act {σ : Type} (h : Hosted) (network : Network) (store : σ) (now : Instant)
    (deed : Turn σ → Turn σ) : List Datagram × σ × Hosted :=
  match h.session with
  | none => ([], store, h)
  | some session =>
    let turn := deed
      { server := h.id, timing := h.settings.timing, network, now,
        world := ⟨store, h.live⟩, session }
    (turn.sent, turn.world.store,
      { h with live := turn.world.live, session := some turn.session })

/-- A datagram comes in. What it brings waits. -/
def arrive {σ : Type} [Gateway σ] (h : Hosted) (network : Network) (store : σ) (now : Instant)
    (peer : SocketAddress) (datagram : Bytes) : List Datagram × σ × Hosted :=
  h.act network store now fun turn => turn.arrive peer datagram

/-- The packet is taken in that has waited longest. -/
def handleNext {σ : Type} [Gateway σ] (h : Hosted) (network : Network) (store : σ)
    (now : Instant) : List Datagram × σ × Hosted :=
  h.act network store now Turn.handleNext

/-- A datagram comes in at a server that has nothing else to do: what it brings is taken in,
    and all that is due then is done. -/
def receive {σ : Type} [Gateway σ] (h : Hosted) (network : Network) (store : σ) (now : Instant)
    (peer : SocketAddress) (datagram : Bytes) : List Datagram × σ × Hosted :=
  h.act network store now fun turn => (turn.receive peer datagram).settle

/-- All that is due is done. -/
def settle {σ : Type} [Gateway σ] (h : Hosted) (network : Network) (store : σ) (now : Instant) :
    List Datagram × σ × Hosted :=
  h.act network store now Turn.settle

end Hosted

end ChatHost
