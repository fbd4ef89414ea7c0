import ChatHost.Link.Frame
import ChatHost.Server.World
import ChatHost.Wire.Packet

/-!
# Broadcast

How new messages reach the viewers of their channels.

At every tick the queue is emptied. Its messages are grouped by channel; the
messages of a channel are cut into batches small enough for one datagram each,
unless a single message is larger than that; and every batch goes to everyone
who is looking at the channel when the queue is emptied.

Nothing is lost on the way: groups and batches keep the order of the queue, and
together they hold each of its messages once. Every packet is tried once, and
one that cannot be sent holds up no other.

## Main definitions

* `groupByChannel`: The messages of each channel.
* `splitBatch`: Messages in batches of limited size.
* `Push`: One batch on its way to its viewers.
* `Live.pushes`: All pushes of one tick.
* `Attempt`: A packet that was sent, or could not be.
* `TickReport`: What a tick did.
* `Live.fanOut`: The queue is emptied.
-/

namespace ChatHost

/-- The bytes of a push before its first row: header and count. -/
def pushOverhead : Nat := 12

/-- The size that a push stays within as long as it can. -/
def maxPushSize : Nat := Frame.maxPayload

/-- Puts a message at the end of the group of its channel, or into a new group
    behind all others. -/
def addToGroup (message : Message) :
    List (ChannelId × List Message) → List (ChannelId × List Message)
  | [] => [(message.channel, [message])]
  | (channel, group) :: rest =>
    if channel = message.channel then (channel, group ++ [message]) :: rest
    else (channel, group) :: addToGroup message rest

/-- The messages of each channel, in order. Channels come in the order of their
    first messages. -/
def groupByChannel (messages : List Message) : List (ChannelId × List Message) :=
  messages.foldl (fun groups message => addToGroup message groups) []

/-- Batches of messages, the first of which has been begun with `current`, of
    `size` bytes. -/
def splitFrom (limit : Nat) (current : List Message) (size : Nat) :
    List Message → List (List Message)
  | [] => if current.isEmpty then [] else [current]
  | message :: rest =>
    let length := MessageRow.size message.text
    -- An empty batch takes any message, however large.
    if !current.isEmpty && decide (limit < size + length) then
      current :: splitFrom limit [message] (pushOverhead + length) rest
    else splitFrom limit (current ++ [message]) (size + length) rest

/-- Messages in batches whose pushes have at most `limit` bytes each. A message
    that is too large on its own is a batch of its own. -/
def splitBatch (limit : Nat) (messages : List Message) : List (List Message) :=
  splitFrom limit [] pushOverhead messages

/-- The packet that pushes a batch. -/
def pushPacket (batch : List Message) : Bytes :=
  responsePacket .push .success (batch.map Message.row)

/-- One batch on its way to the viewers of its channel. -/
structure Push where
  channel : ChannelId
  batch : List Message
  recipients : List SocketAddress

namespace Push

/-- The packet of a push. -/
def packet (push : Push) : Bytes := pushPacket push.batch

/-- What is to be sent for a push, one packet to each recipient. -/
def deliveries (push : Push) : List (SocketAddress × Bytes) :=
  let packet := push.packet
  push.recipients.map fun peer => (peer, packet)

end Push

/-- All pushes that empty the queue. -/
def Live.pushes (live : Live) : List Push :=
  (groupByChannel live.queue).flatMap fun (channel, group) =>
    let recipients := live.presence.recipients channel
    (splitBatch maxPushSize group).map fun batch => { channel, batch, recipients }

/-- All packets that empty the queue, in the order in which they are sent. -/
def Live.deliveries (live : Live) : List (SocketAddress × Bytes) :=
  live.pushes.flatMap Push.deliveries

/-- A packet that was sent, or could not be. -/
structure Attempt where
  peer : SocketAddress
  packet : Bytes
  sent : Bool
  deriving DecidableEq

/-- Tries to send packets one after the other, of which `n` came before. Which
    of them can be sent may depend on their number and on their peer. -/
def attemptAll (accepts : Nat → SocketAddress → Bool) (n : Nat) :
    List (SocketAddress × Bytes) → List Attempt
  | [] => []
  | (peer, packet) :: rest =>
    { peer, packet, sent := accepts n peer } :: attemptAll accepts (n + 1) rest

/-- What a tick did. -/
structure TickReport where
  /-- Messages taken from the queue. -/
  messages : Nat := 0
  /-- Channels that they were said in. -/
  channels : Nat := 0
  /-- Packets that went out. -/
  pushesSent : Nat := 0
  /-- Users who were asked whether they are there. -/
  heartbeats : Nat := 0
  /-- Users who did not say so and are offline now. -/
  demoted : Nat := 0
  deriving DecidableEq

/-- The report of emptying the queue, given how many packets went out. -/
def Live.broadcastReport (live : Live) (pushesSent : Nat) : TickReport :=
  { messages := live.queue.length, channels := (groupByChannel live.queue).length, pushesSent }

/-- The queue is emptied, and everything in it is tried to be sent. -/
def Live.fanOut (live : Live) (accepts : Nat → SocketAddress → Bool) :
    TickReport × List Attempt × Live :=
  let attempts := attemptAll accepts 0 live.deliveries
  (live.broadcastReport (attempts.filter (·.sent)).length, attempts, live.drained)

end ChatHost
