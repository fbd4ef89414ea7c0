import ChatHost.Link.Endpoint
import ChatHost.Server.Handler

/-!
# Dispatch

From a packet to its handler.

A packet whose header cannot be read, or whose kind has no handler, is dropped
as if it had never come. Any other is a sign of life: if its sender is known,
they were heard from now and at this address, whatever becomes of the request.

## Main definitions

* `HandlerTable`: Which handler serves which kind of request.
* `Dispatched`: What became of a packet.
* `dispatch`: Takes in one packet.
* `dispatchAll`: Takes in packets one after the other.
-/

namespace ChatHost

/-- Which handler serves which kind of request. Of several for one kind the
    last entry counts. -/
structure HandlerTable where
  entries : List (RequestKind × Handler)

namespace HandlerTable

/-- Every handler serves the kind of request that it is made for. -/
def standard : HandlerTable :=
  ⟨[.join, .serverInfo, .openChannel, .say, .membership, .adminMenu, .createChannel].map
    fun handler : Handler => (handler.kind, handler)⟩

/-- The handler for a kind of request. -/
def find? (table : HandlerTable) (kind : RequestKind) : Option Handler :=
  (table.entries.reverse.find? fun entry => decide (entry.1 = kind)).map (·.2)

end HandlerTable

/-- What became of a packet. -/
inductive Dispatched
  /-- Its header cannot be read. -/
  | unreadable (error : DecodeError)
  /-- No handler serves its kind. -/
  | unserved (kind : RequestKind)
  /-- A handler did this. -/
  | handled (kind : RequestKind) (result : Except HandlerError Reply)

/-- The answer that goes back, if one does. -/
def Dispatched.answer? : Dispatched → Option Bytes
  | handled _ (.ok (.answer packet)) => some packet
  | _ => none

variable {σ : Type} [Gateway σ]

/-- The sender of a packet was heard from, if they are known. -/
def World.touch (w : World σ) (peer : SocketAddress) (now : Instant) : World σ :=
  match w.live.presence.find? peer with
  | some user => w.setPresence (w.live.presence.touch user.id peer now)
  | none => w

/-- Takes in one packet. -/
def dispatch (table : HandlerTable) (server : ServerId) (peer : SocketAddress)
    (packet : Bytes) (now : Instant) (w : World σ) : Dispatched × World σ :=
  match RequestHeader.decode packet with
  | (.error error, _) => (.unreadable error, w)
  | (.ok ⟨kind⟩, payload) =>
    match table.find? kind with
    | none => (.unserved kind, w)
    | some handler =>
      -- The sign of life counts before the handler looks at the world.
      let (result, w) := handler.run server { peer, payload, now } (w.touch peer now)
      (.handled kind result, w)

/-- Takes in packets one after the other, at one instant, and collects the
    answers in order. -/
def dispatchAll (table : HandlerTable) (server : ServerId) (now : Instant) :
    List Inbound → World σ → List (Inbound × Dispatched) × World σ
  | [], w => ([], w)
  | packet :: rest, w =>
    let (outcome, w) := dispatch table server packet.peer packet.payload now w
    let (outcomes, w) := dispatchAll table server now rest w
    ((packet, outcome) :: outcomes, w)

end ChatHost
