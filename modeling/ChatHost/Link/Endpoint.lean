import ChatHost.Link.Network
import ChatHost.Link.Reassembly

/-!
# Endpoints

One socket of the host: it sends packets, puts together those that come in, and
matches answers with those who wait for them.

Every packet that this end begins gets a number of its own, whether or not it
can be sent in the end; an answer takes over the number of its request. An
answer that comes in goes to whoever waits for its number, and to nobody else;
all other packets go into the inbox. The inbox holds only so many packets, and
what comes when it is full is lost, so that a peer who floods the host delays
no answers.

Waiting ends with the answer, at the deadline, or when the endpoint is closed,
whichever is first.

## Main definitions

* `Endpoint`: A socket of the host.
* `Endpoint.send`, `Endpoint.request`, `Endpoint.respond`: Packets go out.
* `Endpoint.receive`: A datagram comes in.
* `Endpoint.expire`, `Endpoint.close`: Waiting ends without an answer.
-/

namespace ChatHost

/-- A packet that came in. -/
structure Inbound where
  peer : SocketAddress
  /-- Set if the peer waits for an answer. -/
  correlation : Option UInt32
  payload : Bytes
  deriving DecidableEq

/-- Whether the peer waits for an answer. -/
def Inbound.wantsAnswer (packet : Inbound) : Bool := packet.correlation.isSome

/-- Someone on this end who waits for an answer. -/
structure Waiter where
  /-- Tells the requests of an endpoint apart. -/
  ticket : Nat
  correlation : UInt32
  deadline : Instant
  deriving DecidableEq

/-- The end of waiting: the answer, or nothing. -/
structure Resolution where
  ticket : Nat
  answer : Option Bytes
  deriving DecidableEq

/-- A socket of the host. -/
structure Endpoint where
  address : SocketAddress
  closed : Bool := false
  /-- How many packets this end has begun. -/
  issued : Nat := 0
  waiters : List Waiter := []
  reassembler : Reassembler := { timeout := 5000 }
  /-- Packets that came in and were not yet taken, the oldest first. -/
  inbox : List Inbound := []
  /-- Whether anyone is still going to take packets. -/
  inboxOpen : Bool := true

namespace Endpoint

/-- How many packets the inbox holds. -/
def inboxCapacity : Nat := 1024

/-- The number of the packet that this end begins next. -/
def nextCorrelation (e : Endpoint) : UInt32 := UInt32.ofNat (e.issued + 1)

/-- Takes a number. -/
def issue (e : Endpoint) : Endpoint := { e with issued := e.issued + 1 }

/-- Sends a packet in as many frames as it needs. A closed endpoint sends
    nothing, and neither does one that is given too large a packet. -/
def transmit (network : Network) (e : Endpoint) (peer : SocketAddress) (kind : FrameKind)
    (correlation : UInt32) (payload : Bytes) : Except LinkError Unit × List Datagram :=
  if e.closed then (.error .closed, [])
  else
    match Frame.split kind correlation payload with
    | .error error => (.error error, [])
    | .ok frames => network.sendAll e.address peer frames

/-- Sends a packet that wants no answer. -/
def send (network : Network) (e : Endpoint) (peer : SocketAddress) (payload : Bytes) :
    Except LinkError Unit × List Datagram × Endpoint :=
  let (result, sent) := e.transmit network peer .message e.nextCorrelation payload
  (result, sent, e.issue)

/-- Answers a packet that wants an answer. -/
def respond (network : Network) (e : Endpoint) (packet : Inbound) (payload : Bytes) :
    Except LinkError Unit × List Datagram :=
  match packet.correlation with
  | none => (.error .notARequest, [])
  | some correlation => e.transmit network packet.peer .response correlation payload

/-- Sends a packet that wants an answer, and waits for it up to `timeout`. The
    result is the ticket under which waiting will end. -/
def request (network : Network) (e : Endpoint) (peer : SocketAddress) (payload : Bytes)
    (timeout : Nat) (now : Instant) : Except LinkError Nat × List Datagram × Endpoint :=
  if e.closed then (.error .closed, [], e)
  else
    match e.transmit network peer .request e.nextCorrelation payload with
    -- What cannot be sent is not waited for, but its number is spent.
    | (.error error, sent) => (.error error, sent, e.issue)
    | (.ok (), sent) =>
      let waiter : Waiter := ⟨e.issued, e.nextCorrelation, now + timeout⟩
      (.ok e.issued, sent, { e.issue with waiters := e.waiters ++ [waiter] })

/-- Those whose deadline has come wait no longer. -/
def expire (e : Endpoint) (now : Instant) : List Resolution × Endpoint :=
  let (late, waiting) := e.waiters.partition fun waiter => decide (waiter.deadline ≤ now)
  (late.map fun waiter => ⟨waiter.ticket, none⟩, { e with waiters := waiting })

/-- Nothing goes out or comes in from now on, and nobody waits any longer. -/
def close (e : Endpoint) : List Resolution × Endpoint :=
  (e.waiters.map fun waiter => ⟨waiter.ticket, none⟩,
    { e with closed := true, waiters := [] })

/-- An answer came in. -/
def resolve (e : Endpoint) (correlation : UInt32) (answer : Bytes) :
    List Resolution × Endpoint :=
  match e.waiters.find? fun waiter => decide (waiter.correlation = correlation) with
  | none => ([], e)
  | some waiter =>
    ([⟨waiter.ticket, some answer⟩],
      { e with waiters := e.waiters.filter fun other => decide (other.ticket ≠ waiter.ticket) })

/-- Puts a packet into the inbox, if there is room. -/
def deposit (e : Endpoint) (packet : Inbound) : Endpoint :=
  if e.inboxOpen && decide (e.inbox.length < inboxCapacity) then
    { e with inbox := e.inbox ++ [packet] }
  else e

/-- A whole packet came in. -/
def route (e : Endpoint) (peer : SocketAddress) (frame : Frame) : List Resolution × Endpoint :=
  match frame.kind with
  | .response => e.resolve frame.correlation frame.payload
  | .request => ([], e.deposit ⟨peer, some frame.correlation, frame.payload⟩)
  | .message => ([], e.deposit ⟨peer, none, frame.payload⟩)

/-- A datagram came in. One that is no frame is dropped. -/
def receive (e : Endpoint) (peer : SocketAddress) (datagram : Bytes) (now : Instant) :
    List Resolution × Endpoint :=
  if e.closed then ([], e)
  else
    match Frame.decode datagram with
    | .error _ => ([], e)
    | .ok frame =>
      let (whole, reassembler) := e.reassembler.accept peer frame now
      let e := { e with reassembler := reassembler }
      match whole with
      | none => ([], e)
      | some frame => e.route peer frame

/-- The inbox as it is found when a packet is to be taken. -/
inductive Taken
  | packet (packet : Inbound)
  /-- There may be packets later. -/
  | empty
  /-- There will be none. -/
  | disconnected
  deriving DecidableEq

/-- Takes the oldest packet. What came in before the endpoint was closed can
    still be taken. -/
def take (e : Endpoint) : Taken × Endpoint :=
  match e.inbox with
  | packet :: rest => (.packet packet, { e with inbox := rest })
  | [] => (if e.closed || !e.inboxOpen then .disconnected else .empty, e)

/-- Takes all packets. -/
def takeAll (e : Endpoint) : List Inbound × Endpoint := (e.inbox, { e with inbox := [] })

/-- Nobody is going to take packets any longer. -/
def dropInbox (e : Endpoint) : Endpoint := { e with inbox := [], inboxOpen := false }

end Endpoint

end ChatHost
