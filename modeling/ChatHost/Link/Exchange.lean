import ChatHost.Link.Client
import ChatHost.Link.Endpoint

/-!
# Endpoints on a Network

Several endpoints and bare clients on one network, and the questions that the
endpoints have put to each other.

Datagrams arrive at once. Time stands still until it is moved, and when it has
moved, those whose deadline lies behind wait no longer.

An address belongs to whoever opened a socket there first, and a closed
endpoint does not give its address back. An endpoint can lose its name to a new
one. It is then out of reach, but it goes on and keeps its address; only if it
was closed before is it gone for good.

## Main definitions

* `Question`: A request of an endpoint, and what became of it.
* `Exchange`: Everything on the network.
* `Exchange.listen`, `Exchange.send`, `Exchange.ask`, `Exchange.poll`: What can
  be done with endpoints.
-/

namespace ChatHost

/-- What became of a request. -/
inductive Progress
  | waiting (ticket : Nat)
  | settled (result : Except LinkError (Option Bytes))

/-- A request of an endpoint. -/
structure Question where
  name : String
  /-- Where the endpoint is that asked. -/
  asker : SocketAddress
  progress : Progress

/-- Takes note of the end of waiting at some endpoint. -/
def Question.note (question : Question) (asker : SocketAddress) (resolution : Resolution) :
    Question :=
  match question.progress with
  | .waiting ticket =>
    if question.asker = asker ∧ ticket = resolution.ticket then
      { question with progress := .settled (.ok resolution.answer) }
    else question
  | .settled _ => question

/-- An endpoint with the packets that were taken from it. -/
structure Node where
  /-- The name by which it is reached, until another gets this name. -/
  name : Option String
  endpoint : Endpoint
  taken : List Inbound := []

/-- What is left of an endpoint when a new one gets a name. -/
def Node.cede (name : String) (node : Node) : Option Node :=
  if node.name ≠ some name then some node
  else if node.endpoint.closed then none
  else some { node with name := none }

/-- Everything on a network. -/
structure Exchange where
  network : Network
  clock : Instant := 0
  nodes : List Node := []
  clients : Clients := {}
  questions : List Question := []

/-- Why something cannot be done on an exchange. -/
inductive ExchangeError
  | unknownNode
  | unknownQuestion
  | unknownPacket
  | client (error : ClientError)
  | link (error : LinkError)

/-- The wording of a cause. -/
def ExchangeError.message : ExchangeError → String
  | unknownNode => "no such node"
  | unknownQuestion => "no such request"
  | unknownPacket => "no such packet"
  | client error => error.message
  | link error => error.message

namespace Exchange

/-- The endpoint of a name. -/
def find? (x : Exchange) (name : String) : Option Node :=
  x.nodes.find? fun node => decide (node.name = some name)

/-- Whether a socket was opened at an address. -/
def isTaken (x : Exchange) (address : SocketAddress) : Bool :=
  x.nodes.any (fun node => decide (node.endpoint.address = address)) || x.clients.holds address

/-- Puts a changed endpoint in its place. No two have one address. -/
def update (x : Exchange) (node : Node) : Exchange :=
  { x with
    nodes := x.nodes.map fun other =>
      if other.endpoint.address = node.endpoint.address then node else other }

/-- Takes note of the ends of waiting at some endpoint. -/
def noteAll (x : Exchange) (asker : SocketAddress) (resolutions : List Resolution) : Exchange :=
  { x with
    questions := x.questions.map fun question =>
      resolutions.foldl (fun question resolution => question.note asker resolution) question }

/-- A datagram arrives at one endpoint, if it is for this one. -/
def deliverTo (datagram : Datagram) (x : Exchange) (node : Node) : Exchange :=
  if node.endpoint.address = datagram.target then
    let (resolutions, endpoint) := node.endpoint.receive datagram.source datagram.bytes x.clock
    (x.update { node with endpoint := endpoint }).noteAll endpoint.address resolutions
  else x

/-- A datagram arrives. -/
def deliver (x : Exchange) (datagram : Datagram) : Exchange :=
  x.nodes.foldl (deliverTo datagram) { x with clients := x.clients.deliver datagram }

/-- Datagrams arrive, one after the other. -/
def deliverAll (x : Exchange) (datagrams : List Datagram) : Exchange :=
  datagrams.foldl deliver x

/-- Whoever waited long enough at one endpoint waits no longer. -/
def expireNode (x : Exchange) (node : Node) : Exchange :=
  let (resolutions, endpoint) := node.endpoint.expire x.clock
  (x.update { node with endpoint := endpoint }).noteAll endpoint.address resolutions

/-- Whoever waited long enough waits no longer. -/
def expire (x : Exchange) : Exchange := x.nodes.foldl expireNode x

/-- Time goes by, in one leap. -/
def advance (x : Exchange) (ms : Nat) : Exchange := expire { x with clock := x.clock + ms }

/-- Opens an endpoint, unless someone has its address. -/
def listen (x : Exchange) (name : String) (address : SocketAddress) :
    Except LinkError SocketAddress × Exchange :=
  if x.isTaken address then (.error (.io Network.addressInUse), x)
  else
    let others := x.nodes.filterMap (Node.cede name)
    (.ok address, { x with nodes := others ++ [{ name := some name, endpoint := { address } }] })

/-- Opens a client, unless someone has its address. -/
def openClient (x : Exchange) (name : String) (address : SocketAddress) :
    Except ExchangeError Unit × Exchange :=
  match x.clients.openAt name address x.isTaken with
  | .error error => (.error (.client error), x)
  | .ok clients => (.ok (), { x with clients := clients })

/-- What a client sends arrives, if the network takes it. -/
def post (x : Exchange) (sent : Except ClientError Datagram) :
    Except ExchangeError Unit × Exchange :=
  match sent with
  | .error error => (.error (.client error), x)
  | .ok datagram => (.ok (), x.deliver datagram)

/-- A client sends bytes. -/
def clientRaw (x : Exchange) (name : String) (target : SocketAddress) (bytes : Bytes) :
    Except ExchangeError Unit × Exchange :=
  x.post (x.clients.sendRaw x.network name target bytes)

/-- A client sends a request in one frame. -/
def clientRequest (x : Exchange) (name : String) (target : SocketAddress)
    (correlation : UInt32) (payload : Bytes) : Except ExchangeError Unit × Exchange :=
  x.post (x.clients.sendRequest x.network name target correlation payload)

/-- A client answers the request that it got last. -/
def clientAnswer (x : Exchange) (name : String) (payload : Bytes) :
    Except ExchangeError Unit × Exchange :=
  x.post (x.clients.sendAnswer x.network name payload)

/-- What an endpoint did, with the datagrams that it sent. -/
def settle (x : Exchange) (node : Node) (endpoint : Endpoint) (sent : List Datagram) :
    Exchange :=
  (x.update { node with endpoint := endpoint }).deliverAll sent

/-- An endpoint sends a packet that wants no answer. -/
def send (x : Exchange) (name : String) (target : SocketAddress) (payload : Bytes) :
    Except ExchangeError Unit × Exchange :=
  match x.find? name with
  | none => (.error .unknownNode, x)
  | some node =>
    let (result, sent, endpoint) := node.endpoint.send x.network target payload
    (result.mapError .link, x.settle node endpoint sent)

/-- Notes a new question, in place of one of its name. -/
def addQuestion (x : Exchange) (question : Question) : Exchange :=
  let others := x.questions.filter fun other => decide (other.name ≠ question.name)
  { x with questions := others ++ [question] }

/-- An endpoint sends a request. What becomes of it is asked for later. -/
def ask (x : Exchange) (name question : String) (target : SocketAddress) (payload : Bytes)
    (timeout : Nat) : Except ExchangeError Unit × Exchange :=
  match x.find? name with
  | none => (.error .unknownNode, x)
  | some node =>
    let (result, sent, endpoint) :=
      node.endpoint.request x.network target payload timeout x.clock
    let progress : Progress :=
      match result with
      | .ok ticket => .waiting ticket
      | .error error => .settled (.error error)
    let x := (x.update { node with endpoint := endpoint }).addQuestion
      { name := question, asker := endpoint.address, progress }
    (.ok (), (if timeout = 0 then x.expire else x).deliverAll sent)

/-- What became of a question. One that is settled is forgotten thereby. -/
def poll (x : Exchange) (question : String) :
    Except ExchangeError (Option (Option Bytes)) × Exchange :=
  match x.questions.find? fun other => decide (other.name = question) with
  | none => (.error .unknownQuestion, x)
  | some found =>
    match found.progress with
    | .waiting _ => (.ok none, x)
    | .settled result =>
      let others := x.questions.filter fun other => decide (other.name ≠ question)
      (match result with
        | .ok answer => .ok (some answer)
        | .error error => .error (.link error),
        { x with questions := others })

/-- Takes the next packet from the inbox of an endpoint. -/
def receive (x : Exchange) (name : String) : Except ExchangeError Endpoint.Taken × Exchange :=
  match x.find? name with
  | none => (.error .unknownNode, x)
  | some node =>
    let (taken, endpoint) := node.endpoint.take
    let packets := match taken with
      | .packet packet => node.taken ++ [packet]
      | .empty | .disconnected => node.taken
    (.ok taken, x.update { node with endpoint := endpoint, taken := packets })

/-- Takes all packets from the inbox of an endpoint, and counts them. -/
def receiveAll (x : Exchange) (name : String) : Except ExchangeError Nat × Exchange :=
  match x.find? name with
  | none => (.error .unknownNode, x)
  | some node =>
    let (packets, endpoint) := node.endpoint.takeAll
    (.ok packets.length,
      x.update { node with endpoint := endpoint, taken := node.taken ++ packets })

/-- An endpoint answers one of the packets that were taken from it, counted from
    zero. -/
def reply (x : Exchange) (name : String) (packet : Nat) (payload : Bytes) :
    Except ExchangeError Unit × Exchange :=
  match x.find? name with
  | none => (.error .unknownNode, x)
  | some node =>
    match node.taken[packet]? with
    | none => (.error .unknownPacket, x)
    | some packet =>
      let (result, sent) := node.endpoint.respond x.network packet payload
      (result.mapError .link, x.deliverAll sent)

/-- Closes an endpoint. -/
def close (x : Exchange) (name : String) : Except ExchangeError Unit × Exchange :=
  match x.find? name with
  | none => (.error .unknownNode, x)
  | some node =>
    let (resolutions, endpoint) := node.endpoint.close
    (.ok (), (x.update { node with endpoint := endpoint }).noteAll endpoint.address resolutions)

/-- Whether an endpoint is closed. -/
def isClosed (x : Exchange) (name : String) : Except ExchangeError Bool :=
  match x.find? name with
  | none => .error .unknownNode
  | some node => .ok node.endpoint.closed

/-- Nobody takes packets from an endpoint any longer. -/
def dropInbox (x : Exchange) (name : String) : Except ExchangeError Unit × Exchange :=
  match x.find? name with
  | none => (.error .unknownNode, x)
  | some node => (.ok (), x.update { node with endpoint := node.endpoint.dropInbox })

/-- What the clients have got since the last time. -/
def collect (x : Exchange) : List (String × Frame) × Exchange :=
  let (received, clients) := x.clients.collect
  (received, { x with clients := clients })

end Exchange

end ChatHost
