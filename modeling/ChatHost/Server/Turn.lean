import ChatHost.Config.Settings
import ChatHost.Link.Endpoint
import ChatHost.Server.Broadcast
import ChatHost.Server.Dispatch
import ChatHost.Server.Heartbeat

/-!
# A Turn of a Running Server

What a running server does at one instant: a datagram comes in, or it takes a
packet from its inbox, or it notices that time has gone by and does all that is
due.

These are done by parts of the server that do not wait for each other. A packet
that comes in waits in the inbox until it is taken, and packets are taken one at
a time, in the order in which they came. A server with nothing else to do takes
them at once (`Turn.receive`); one that is busy finds several, and what comes
when its inbox is full is lost.

Ticks follow one another: a tick is not over before its sweep is, and a tick
that falls due meanwhile waits. Ticks are planned ahead by whole periods as long
as they are kept; after a tick that was late by more than `tickSlack` the plan
starts over from the time of that tick.

## Main definitions

* `Session`: What a server has only while it runs.
* `Turn`: A running server at one instant, and the datagrams it has sent.
* `Turn.arrive`: A datagram comes in.
* `Turn.handleNext`: The packet is taken that has waited longest.
* `Turn.receive`: A datagram comes in, and nothing is left to wait.
* `Turn.settle`: All that is due is done.
-/

namespace ChatHost

/-- What became of the question whether a user is there. -/
inductive Inquiry
  | waiting (ticket : Nat)
  | settled (alive : Bool)
  deriving DecidableEq

namespace Inquiry

/-- Takes note of the end of waiting. -/
def note (resolution : Resolution) : Inquiry → Inquiry
  | waiting ticket =>
    if ticket = resolution.ticket then settled resolution.answer.isSome else waiting ticket
  | settled alive => settled alive

/-- Whether the user is there, once that is known. -/
def alive? : Inquiry → Option Bool
  | waiting _ => none
  | settled alive => some alive

end Inquiry

/-- The users who are being asked whether they are there. -/
structure Sweep where
  entries : List (StaleUser × Inquiry)
  deriving DecidableEq

namespace Sweep

/-- Takes note of the end of waiting. -/
def note (sweep : Sweep) (resolution : Resolution) : Sweep :=
  ⟨sweep.entries.map fun (user, inquiry) => (user, inquiry.note resolution)⟩

/-- The results, once all are in. -/
def results? (sweep : Sweep) : Option (List (StaleUser × Bool)) :=
  sweep.entries.mapM fun (user, inquiry) => inquiry.alive?.map fun alive => (user, alive)

end Sweep

/-- What a server has only while it runs. -/
structure Session where
  endpoint : Endpoint
  /-- When the next tick is due. -/
  due : Instant
  /-- The sweep that is out, if one is. -/
  sweep : Option Sweep := none

/-- A running server at one instant. -/
structure Turn (σ : Type) where
  server : ServerId
  timing : Timing
  network : Network
  now : Instant
  world : World σ
  session : Session
  /-- The datagrams that went out, the oldest first. -/
  sent : List Datagram := []

/-- How late a tick may be without moving those behind it. -/
def tickSlack : Nat := 5

/-- When the tick after one that was due at `due` and came at `now` is due. -/
def nextDue (period : Nat) (due now : Instant) : Instant :=
  if now ≤ due + tickSlack then due + period else now + period

namespace Turn

variable {σ : Type} [Gateway σ]

/-- The time from one tick to the next. It is never zero. -/
def period (turn : Turn σ) : Nat := max turn.timing.tick 1

/-- The turn with an endpoint that has sent some datagrams. -/
def withEndpoint (turn : Turn σ) (endpoint : Endpoint) (sent : List Datagram) : Turn σ :=
  { turn with
    session := { turn.session with endpoint := endpoint }
    sent := turn.sent ++ sent }

/-- Takes in one packet, and answers it if it is to be answered. -/
def handle (turn : Turn σ) (packet : Inbound) : Turn σ :=
  let (outcome, world) :=
    dispatch .standard turn.server packet.peer packet.payload turn.now turn.world
  let turn := { turn with world := world }
  match outcome.answer? with
  | none => turn
  | some answer =>
    let endpoint := turn.session.endpoint
    turn.withEndpoint endpoint (endpoint.respond turn.network packet answer).2

/-- Takes in the packet of the inbox that has waited longest, if there is one. -/
def handleNext (turn : Turn σ) : Turn σ :=
  match turn.session.endpoint.take with
  | (.packet packet, endpoint) => (turn.withEndpoint endpoint []).handle packet
  | (_, _) => turn

/-- Takes in packets of the inbox, at most `count` of them. -/
def handleUpTo (turn : Turn σ) : (count : Nat) → Turn σ
  | 0 => turn
  | count + 1 => turn.handleNext.handleUpTo count

/-- Takes in all packets that wait in the inbox. -/
def handleAll (turn : Turn σ) : Turn σ := turn.handleUpTo turn.session.endpoint.inbox.length

/-- Takes note of the ends of waiting. -/
def note (turn : Turn σ) (resolutions : List Resolution) : Turn σ :=
  { turn with
    session := { turn.session with
      sweep := turn.session.sweep.map fun sweep => resolutions.foldl Sweep.note sweep } }

/-- A datagram comes in. The packet that it completes, if it does, waits in the inbox, and
    an answer is given to whoever waits for it. -/
def arrive (turn : Turn σ) (peer : SocketAddress) (datagram : Bytes) : Turn σ :=
  let (resolutions, endpoint) := turn.session.endpoint.receive peer datagram turn.now
  (turn.withEndpoint endpoint []).note resolutions

/-- A datagram comes in at a server that has nothing else to do, so that no packet is left
    to wait. -/
def receive (turn : Turn σ) (peer : SocketAddress) (datagram : Bytes) : Turn σ :=
  (turn.arrive peer datagram).handleAll

/-- Those who have waited long enough wait no longer. -/
def expire (turn : Turn σ) : Turn σ :=
  let (resolutions, endpoint) := turn.session.endpoint.expire turn.now
  (turn.withEndpoint endpoint []).note resolutions

/-- Pushes one packet. If it cannot be sent, that is that. -/
def push (turn : Turn σ) (delivery : SocketAddress × Bytes) : Turn σ :=
  let (_, sent, endpoint) :=
    turn.session.endpoint.send turn.network delivery.1 delivery.2
  turn.withEndpoint endpoint sent

/-- The first half of a tick: the queue is emptied. -/
def broadcast (turn : Turn σ) : Turn σ :=
  let live := turn.world.live
  let turn := { turn with world := { turn.world with live := live.drained } }
  live.deliveries.foldl push turn

/-- Asks one user whether they are there. -/
def inquire (turn : Turn σ) (user : StaleUser) : Inquiry × Turn σ :=
  let (result, sent, endpoint) :=
    turn.session.endpoint.request turn.network user.address heartbeatPacket
      turn.timing.heartbeatTimeout turn.now
  let inquiry : Inquiry :=
    match result with
    | .ok ticket => .waiting ticket
    | .error _ => .settled false
  (inquiry, turn.withEndpoint endpoint sent)

/-- Asks users whether they are there. -/
def inquireAll (turn : Turn σ) : List StaleUser → List (StaleUser × Inquiry) × Turn σ
  | [] => ([], turn)
  | user :: rest =>
    let (inquiry, turn) := turn.inquire user
    let (entries, turn) := turn.inquireAll rest
    ((user, inquiry) :: entries, turn)

/-- The second half of a tick begins: silent users are asked. -/
def beginSweep (turn : Turn σ) : Turn σ :=
  let stale := turn.world.live.presence.stale turn.timing.staleAfter turn.now
  let (entries, turn) := turn.inquireAll stale
  { turn with session := { turn.session with sweep := some ⟨entries⟩ } }

/-- The second half of a tick ends once all results are in. -/
def endSweep (turn : Turn σ) : Turn σ :=
  match turn.session.sweep.bind Sweep.results? with
  | none => turn
  | some results =>
    let (presence, _) := applyHeartbeats turn.now results turn.world.live.presence
    { turn with
      world := turn.world.setPresence presence
      session := { turn.session with sweep := none } }

/-- A tick, up to the point where it has to wait. -/
def tick (turn : Turn σ) : Turn σ :=
  let due := nextDue turn.period turn.session.due turn.now
  let turn := { turn with session := { turn.session with due := due } }
  turn.broadcast.beginSweep.expire.endSweep

/-- Does the ticks that are due, at most `count` of them, as long as none has to
    wait. -/
def tickWhileDue (turn : Turn σ) : (count : Nat) → Turn σ
  | 0 => turn
  | count + 1 =>
    if turn.session.sweep.isNone && decide (turn.session.due ≤ turn.now) then
      turn.tick.tickWhileDue count
    else turn

/-- Does all that is due. A plan that is kept within `tickSlack` has no more
    than `tickSlack + 1` ticks due at a time. -/
def settle (turn : Turn σ) : Turn σ := turn.expire.endSweep.tickWhileDue (tickSlack + 1)

end Turn

end ChatHost
