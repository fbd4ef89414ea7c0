import ChatHost.Link.Network

/-!
# Clients

Bare sockets outside the host, which send what they are told to and keep what
they get.

A client reassembles nothing and answers nothing by itself. Told to answer, it
answers the request that it got last, and the answer goes to whoever sent it.

## Main definitions

* `Client`: A bare socket.
* `Clients`: The bare sockets of a network, by name.
* `Clients.deliver`: A datagram reaches the client that it is for.
* `Clients.collect`: What the clients have got since the last time.
-/

namespace ChatHost

/-- A bare socket outside the host. -/
structure Client where
  name : String
  address : SocketAddress
  /-- The frames that it has got and not yet shown, the oldest first. -/
  received : List Frame := []
  /-- The sender and the number of the request that it got last. -/
  asked : Option (SocketAddress × UInt32) := none
  deriving DecidableEq

namespace Client

/-- A frame from a sender reaches the client. -/
def accept (client : Client) (source : SocketAddress) (frame : Frame) : Client :=
  { client with
    received := client.received ++ [frame]
    asked :=
      if frame.kind = .request then some (source, frame.correlation) else client.asked }

end Client

/-- The bare sockets of a network, in ascending order of their names. -/
structure Clients where
  list : List Client := []

namespace Clients

/-- The client of a name. -/
def find? (clients : Clients) (name : String) : Option Client :=
  clients.list.find? fun client => decide (client.name = name)

/-- Puts a client into a list that ascends by name, in place of one of its name. -/
def insertClient (client : Client) : List Client → List Client
  | [] => [client]
  | other :: rest =>
    if client.name < other.name then client :: other :: rest
    else if client.name = other.name then client :: rest
    else other :: insertClient client rest

/-- Opens a client, in place of the one of its name. -/
def insert (clients : Clients) (client : Client) : Clients :=
  ⟨insertClient client clients.list⟩

/-- Whether a client has an address. -/
def holds (clients : Clients) (address : SocketAddress) : Bool :=
  clients.list.any fun client => decide (client.address = address)

/-- A datagram reaches the client that it is for, if there is one. -/
def deliver (clients : Clients) (datagram : Datagram) : Clients :=
  match Frame.decode datagram.bytes with
  | .error _ => clients
  | .ok frame =>
    ⟨clients.list.map fun client =>
      if client.address = datagram.target then client.accept datagram.source frame
      else client⟩

/-- Datagrams reach the clients that they are for. -/
def deliverAll (clients : Clients) (datagrams : List Datagram) : Clients :=
  datagrams.foldl deliver clients

/-- What the clients have got since the last time, client by client. -/
def collect (clients : Clients) : List (String × Frame) × Clients :=
  (clients.list.flatMap fun client => client.received.map fun frame => (client.name, frame),
    ⟨clients.list.map fun client => { client with received := [] }⟩)

end Clients

/-- Why a client could not do what it was told. -/
inductive ClientError
  /-- There is no client of this name. -/
  | unknown (name : String)
  /-- It has got no request that it could answer. -/
  | nothingToAnswer
  /-- The network or the host that the client runs on refused. -/
  | refused (reason : String)
  deriving DecidableEq

/-- The wording of a cause. -/
def ClientError.message : ClientError → String
  | unknown _ => "no such client"
  | nothingToAnswer => "nothing to answer"
  | refused reason => reason

namespace Clients

/-- Opens a client at an address, unless someone else has it. -/
def openAt (clients : Clients) (name : String) (address : SocketAddress)
    (isTaken : SocketAddress → Bool) : Except ClientError Clients :=
  if clients.holds address || isTaken address then .error (.refused Network.addressInUse)
  else .ok (clients.insert { name, address })

/-- The datagram that a client sends, if the network takes it. -/
def sendRaw (network : Network) (clients : Clients) (name : String) (target : SocketAddress)
    (bytes : Bytes) : Except ClientError Datagram :=
  match clients.find? name with
  | none => .error (.unknown name)
  | some client =>
    let datagram : Datagram := ⟨client.address, target, bytes⟩
    match network.refusal datagram with
    | some reason => .error (.refused reason)
    | none => .ok datagram

/-- The datagram of a request that a client sends in one frame. -/
def sendRequest (network : Network) (clients : Clients) (name : String)
    (target : SocketAddress) (correlation : UInt32) (payload : Bytes) :
    Except ClientError Datagram :=
  clients.sendRaw network name target (Frame.whole .request correlation payload).encode

/-- The datagram with which a client answers the request that it got last. -/
def sendAnswer (network : Network) (clients : Clients) (name : String) (payload : Bytes) :
    Except ClientError Datagram :=
  match clients.find? name with
  | none => .error (.unknown name)
  | some client =>
    match client.asked with
    | none => .error .nothingToAnswer
    | some (asker, correlation) =>
      clients.sendRaw network name asker (Frame.whole .response correlation payload).encode

end Clients

end ChatHost
