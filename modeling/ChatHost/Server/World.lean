import ChatHost.Presence
import ChatHost.Store.Gateway

/-!
# The World of a Server

What a running hosted server acts on: the store, which outlives it and which it
shares with other servers, and its live state, which is forgotten when it
stops.

The live state is the presence of its users and the queue of messages that have
been stored but not yet pushed to the viewers of their channels.

## Main definitions

* `Live`: Presence and queue.
* `World`: A store and the live state of one server.
* `World.requireChannel`: Whether a channel is one of the server.
-/

namespace ChatHost

/-- The state of a server that is forgotten when it stops. -/
structure Live where
  presence : Tracker := .empty
  /-- Messages that are stored and not yet pushed, the oldest first. -/
  queue : List Message := []
  deriving DecidableEq

namespace Live

/-- The state of a server that does not run. -/
def idle : Live := {}

/-- The state of a server that has just started: its users, all offline. -/
def start (records : List UserRecord) (now : Instant) : Live :=
  { presence := .load records now }

/-- The queue with a message at its end. -/
def enqueue (live : Live) (message : Message) : Live :=
  { live with queue := live.queue ++ [message] }

/-- The state with an empty queue. -/
def drained (live : Live) : Live := { live with queue := [] }

end Live

/-- A store and the live state of one server. -/
structure World (σ : Type) where
  store : σ
  live : Live := .idle

namespace World

variable {σ : Type} [Gateway σ]

/-- The world with other presence. -/
def setPresence (w : World σ) (presence : Tracker) : World σ :=
  { w with live := { w.live with presence := presence } }

/-- Whether a channel is one of the server, or why that cannot be told. -/
def ownsChannel (w : World σ) (server : ServerId) (channel : ChannelId) : Except Fault Bool :=
  (Gateway.selectChannels w.store { id := some channel, server := some server }).map
    fun found => !found.isEmpty

end World

end ChatHost
