import ChatHost.Server.Broadcast
import ChatHost.Server.Dispatch
import ChatHost.Server.Heartbeat
import ChatHost.Server.Script

/-!
# A Server on a Stage

A server among peers that follow scripts, so that whole histories of a server
can be told: packets that come in, ticks, and what happens while a heartbeat is
out.

It is known of a peer whether packets reach it, and how it takes a heartbeat.
While the heartbeats of a sweep are out, the server goes on handling what comes
in; the results count when all are there. What leaves the server is listed in
the order in which it goes.

## Main definitions

* `Stage`: A server, its world, the clock and the scripts of its peers.
* `Effect`: What leaves the server.
* `Stage.receive`, `Stage.tick`: What comes to pass on a stage.
-/

namespace ChatHost

/-- What leaves the server. -/
inductive Effect
  | answered (peer : SocketAddress) (packet : Bytes)
  | pushed (peer : SocketAddress) (packet : Bytes)
  | asked (peer : SocketAddress) (packet : Bytes)

namespace Effect

/-- The peer and the packet of an answer. -/
def answered? : Effect → Option (SocketAddress × Bytes)
  | answered peer packet => some (peer, packet)
  | pushed _ _ | asked _ _ => none

/-- The peer and the packet of a push. -/
def pushed? : Effect → Option (SocketAddress × Bytes)
  | pushed peer packet => some (peer, packet)
  | answered _ _ | asked _ _ => none

/-- The peer and the packet of a heartbeat. -/
def asked? : Effect → Option (SocketAddress × Bytes)
  | asked peer packet => some (peer, packet)
  | answered _ _ | pushed _ _ => none

end Effect

/-- A server, its world, the clock and the scripts of its peers. -/
structure Stage (σ : Type) where
  server : ServerId
  handlers : HandlerTable := .standard
  /-- How long a user may be silent before they are asked. -/
  staleAfter : Nat
  clock : Instant := 0
  world : World σ
  /-- The scripts of those peers that have one; of several the first counts. -/
  scripts : List (SocketAddress × HeartbeatScript) := []
  /-- The peers that pushes do not reach. -/
  unreachable : List SocketAddress := []

namespace Stage

variable {σ : Type} [Gateway σ]

/-- The script of a peer. A peer without one answers at once. -/
def scriptOf (s : Stage σ) (peer : SocketAddress) : HeartbeatScript :=
  match s.scripts.find? fun entry => decide (entry.1 = peer) with
  | some entry => entry.2
  | none => {}

/-- Gives a peer a script, in place of the one it had. -/
def setScript (s : Stage σ) (peer : SocketAddress) (script : HeartbeatScript) : Stage σ :=
  { s with scripts := (peer, script) :: s.scripts }

/-- Says whether pushes reach a peer. -/
def setReachable (s : Stage σ) (peer : SocketAddress) (reachable : Bool) : Stage σ :=
  let others := s.unreachable.filter fun other => decide (other ≠ peer)
  { s with unreachable := if reachable then others else peer :: others }

/-- Time goes by. -/
def wait (s : Stage σ) (ms : Nat) : Stage σ := { s with clock := s.clock + ms }

/-- The stage with other live state. -/
def setLive (s : Stage σ) (live : Live) : Stage σ :=
  { s with world := { s.world with live := live } }

/-- The tracker starts over with the users of the store; counts them. -/
def loadUsers (s : Stage σ) : Except Fault Nat × Stage σ :=
  match Gateway.selectUsers s.world.store { server := some s.server } with
  | .error fault => (.error fault, s)
  | .ok records =>
    (.ok records.length,
      s.setLive { s.world.live with presence := .load records s.clock })

/-- What a handler would do with a request, sign of life apart. -/
def handle (s : Stage σ) (handler : Handler) (peer : SocketAddress) (payload : Bytes) :
    Except HandlerError Reply × Stage σ :=
  let (result, world) := handler.run s.server { peer, payload, now := s.clock } s.world
  (result, { s with world := world })

/-- Why a request that names a channel would be dropped, if it would. -/
def requireChannel (s : Stage σ) (channel : ChannelId) : Except HandlerError Unit :=
  match s.world.ownsChannel s.server channel with
  | .error fault => .error (.storeFailure fault)
  | .ok false => .error (.foreignChannel channel s.server)
  | .ok true => .ok ()

/-- A packet comes in. It is answered if its sender waits for an answer. -/
def receive (s : Stage σ) (packet : Inbound) : List Effect × Stage σ :=
  let (outcome, world) :=
    dispatch s.handlers s.server packet.peer packet.payload s.clock s.world
  let effects :=
    match outcome.answer? with
    | some answer => if packet.wantsAnswer then [.answered packet.peer answer] else []
    | none => []
  (effects, { s with world := world })

/-- Packets come in, one after the other. -/
def receiveAll (s : Stage σ) : List Inbound → List Effect × Stage σ
  | [] => ([], s)
  | packet :: rest =>
    let (first, s) := s.receive packet
    let (later, s) := s.receiveAll rest
    (first ++ later, s)

/-- The first half of a tick: the queue is emptied. -/
def broadcast (s : Stage σ) : TickReport × List Effect × Stage σ :=
  let (report, attempts, live) :=
    s.world.live.fanOut fun _ peer => decide (peer ∉ s.unreachable)
  let effects := (attempts.filter (·.sent)).map fun attempt =>
    Effect.pushed attempt.peer attempt.packet
  (report, effects, s.setLive live)

/-- One thing that happens while heartbeats are out. -/
def interlude (s : Stage σ) : Interlude → List Effect × Stage σ
  | .wait ms => ([], s.wait ms)
  | .packet peer payload => s.receive { peer, correlation := some 0, payload }

/-- All that happens while heartbeats are out. -/
def interludes (s : Stage σ) : List Interlude → List Effect × Stage σ
  | [] => ([], s)
  | first :: rest =>
    let (now, s) := s.interlude first
    let (later, s) := s.interludes rest
    (now ++ later, s)

/-- The second half of a tick: all silent users are asked at once, and the
    results are applied when all are in. -/
def sweep (s : Stage σ) : (Nat × Nat) × List Effect × Stage σ :=
  let stale := s.world.live.presence.stale s.staleAfter s.clock
  let scripted := stale.map fun user => (user, s.scriptOf user.address)
  let asked := stale.map fun user => Effect.asked user.address heartbeatPacket
  let (during, s) := s.interludes (happenings (scripted.map Prod.snd))
  let results := scripted.map fun (user, script) => (user, script.outcome.alive)
  let (presence, demoted) := applyHeartbeats s.clock results s.world.live.presence
  ((stale.length, demoted), asked ++ during, { s with world := s.world.setPresence presence })

/-- A tick. -/
def tick (s : Stage σ) : TickReport × List Effect × Stage σ :=
  let (report, pushed, s) := s.broadcast
  let ((heartbeats, demoted), asked, s) := s.sweep
  ({ report with heartbeats, demoted }, pushed ++ asked, s)

end Stage

end ChatHost
