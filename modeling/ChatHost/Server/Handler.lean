import ChatHost.Link.Error
import ChatHost.Server.World
import ChatHost.Wire.Packet

/-!
# Handling Requests

What a hosted server does with each kind of request.

A handler reads the payload, looks at the world, changes it, and says what to
answer. It has three ways to say no. A request that cannot have come from a
well-behaved client, or that names a channel of another server, is dropped. A
request that is understood and cannot be granted is answered with a refusal.
And a message that is said is never answered: its sender sees it pushed like
everyone else who looks at the channel.

Two notions of a known caller occur. What concerns presence goes by the
tracker; the rights of a caller go by the user whom the store knows at the IP
address.

## Main definitions

* `HandlerError`: Why a request is dropped.
* `Reply`: What goes back to the caller.
* `Handler`: The seven handlers, one for each kind of request of clients.
* `Handler.run`: What a handler does.
-/

namespace ChatHost

/-- Why a request is dropped. -/
inductive HandlerError
  /-- Its payload cannot be read. -/
  | malformed (error : DecodeError)
  /-- It needs a user, and none is known at this address. -/
  | unknownUser (peer : SocketAddress)
  /-- It needs a user who is online. -/
  | userOffline (id : UserId)
  /-- It names a channel that this server does not have. -/
  | foreignChannel (channel : ChannelId) (server : ServerId)
  /-- The store failed, and no answer could say so. -/
  | storeFailure (fault : Fault)
  /-- The link to the caller failed. -/
  | link (error : LinkError)
  deriving DecidableEq

namespace HandlerError

/-- The wording of a cause. -/
def message : HandlerError → String
  | malformed error => "Malformed payload: " ++ error.message
  | unknownUser peer => "No joined user at " ++ peer.toText
  | userOffline id => "User " ++ id.toNat.repr ++ " is offline"
  | foreignChannel channel server =>
    "Channel " ++ channel.toNat.repr ++ " does not belong to server " ++ server.toNat.repr
  | storeFailure fault => "Persistence failure: " ++ fault.message
  | link error => "Transport error: " ++ error.message

/-- Whether the caller brought it about, and not this host. -/
def isPeerError : HandlerError → Bool
  | malformed _ | unknownUser _ | userOffline _ | foreignChannel .. => true
  | storeFailure _ | link _ => false

end HandlerError

/-- What goes back to the caller. -/
inductive Reply
  | answer (packet : Bytes)
  | silent
  deriving DecidableEq

/-- A request as a handler gets it. -/
structure Request where
  peer : SocketAddress
  payload : Bytes
  now : Instant

/-- What a handler did: a reply, or why it dropped the request, and the world
    after it. -/
abbrev Handled (σ : Type) := Except HandlerError Reply × World σ

namespace Handled

variable {σ : Type}

/-- The request is dropped. -/
def drop (error : HandlerError) (w : World σ) : Handled σ := (.error error, w)

/-- The request is answered. -/
def answer (packet : Bytes) (w : World σ) : Handled σ := (.ok (.answer packet), w)

/-- The request is done and nothing goes back. -/
def silent (w : World σ) : Handled σ := (.ok .silent, w)

end Handled

/-- The handlers, one for each kind of request of clients. -/
inductive Handler
  | join
  | serverInfo
  | openChannel
  | say
  | membership
  | adminMenu
  | createChannel
  deriving DecidableEq

namespace Handler

variable {σ : Type} [Gateway σ]

/-- The kind of request that a handler is made for, and that its answers name. -/
def kind : Handler → RequestKind
  | join => .join
  | serverInfo => .serverInfo
  | openChannel => .openChannel
  | say => .say
  | membership => .membership
  | adminMenu => .adminMenu
  | createChannel => .createChannel

/-- The handler that is made for a kind of request, if clients may make it. -/
def ofKind? : RequestKind → Option Handler
  | .join => some join
  | .serverInfo => some serverInfo
  | .openChannel => some openChannel
  | .say => some say
  | .membership => some membership
  | .adminMenu => some adminMenu
  | .createChannel => some createChannel
  | .push | .heartbeat => none

/-- Stores the caller as a member, and tracks them, offline. One IP address can
    join a server once. -/
def runJoin (server : ServerId) (request : Request) (w : World σ) : Handled σ :=
  match (Payload.decode : Decoder JoinRequest).value request.payload with
  | .error error => .drop (.malformed error) w
  | .ok ⟨username⟩ =>
    let refusal := refusalPacket Unit .join
    if username.isBlank then .answer refusal w
    else
      match Gateway.insertUser w.store server request.peer.ip username with
      | (.error _, store) => .answer refusal { w with store := store }
      | (.ok record, store) =>
        let presence := w.live.presence.join record request.peer request.now
        .answer (responsePacket .join .success ())
          (World.setPresence { w with store := store } presence)

/-- Answers with the channels of the server. Anyone may ask. -/
def runChannelList (kind : RequestKind) (server : ServerId) (w : World σ) : Handled σ :=
  match Gateway.selectChannels w.store { server := some server } with
  | .error _ => .answer (refusalPacket (List Channel) kind) w
  | .ok channels => .answer (responsePacket kind .success channels) w

/-- Answers with everything that was ever said in a channel, and from then on
    the caller is online and looks at that channel. -/
def runOpenChannel (server : ServerId) (request : Request) (w : World σ) : Handled σ :=
  match (Payload.decode : Decoder OpenRequest).value request.payload with
  | .error error => .drop (.malformed error) w
  | .ok ⟨channel⟩ =>
    match w.ownsChannel server channel with
    | .error fault => .drop (.storeFailure fault) w
    | .ok false => .drop (.foreignChannel channel server) w
    | .ok true =>
      match w.live.presence.find? request.peer with
      | none => .drop (.unknownUser request.peer) w
      | some user =>
        -- The caller is online even if the history cannot be read after all.
        let presence :=
          (w.live.presence.setChannel user.id channel).markOnline user.id request.peer request.now
        let w := w.setPresence presence
        match Gateway.selectMessages w.store { channel := some channel } with
        | .error _ => .answer (refusalPacket (List MessageRow) .openChannel) w
        | .ok messages =>
          .answer (responsePacket .openChannel .success (messages.map Message.row)) w

/-- Stores what the caller says and queues it for the viewers of the channel.
    The caller has to be online. -/
def runSay (server : ServerId) (request : Request) (w : World σ) : Handled σ :=
  match (Payload.decode : Decoder SayRequest).value request.payload with
  | .error error => .drop (.malformed error) w
  | .ok ⟨channel, text⟩ =>
    match w.live.presence.find? request.peer with
    | none => .drop (.unknownUser request.peer) w
    | some sender =>
      if !sender.online then .drop (.userOffline sender.id) w
      else
        match w.ownsChannel server channel with
        | .error fault => .drop (.storeFailure fault) w
        | .ok false => .drop (.foreignChannel channel server) w
        | .ok true =>
          match Gateway.insertMessage w.store text channel sender.id with
          | (.error fault, store) => .drop (.storeFailure fault) { w with store := store }
          | (.ok receipt, store) =>
            -- Saying something is a sign of life too.
            let live := w.live.enqueue (receipt.message channel sender.id text)
            let presence := live.presence.markOnline sender.id request.peer request.now
            .silent { store := store, live := { live with presence := presence } }

/-- Answers whether the caller is an administrator, going by the store. -/
def runMembership (server : ServerId) (request : Request) (w : World σ) : Handled σ :=
  match Gateway.selectUsers w.store { server := some server, ip := some request.peer.ip } with
  | .error _ => .answer (refusalPacket Membership .membership) w
  | .ok [] => .drop (.unknownUser request.peer) w
  | .ok (user :: _) =>
    .answer (responsePacket .membership .success (Membership.mk user.role.isAdmin)) w

/-- Adds a channel to the server. Anyone may ask. -/
def runCreateChannel (server : ServerId) (request : Request) (w : World σ) : Handled σ :=
  match (Payload.decode : Decoder CreateRequest).value request.payload with
  | .error error => .drop (.malformed error) w
  | .ok ⟨name⟩ =>
    let refusal := refusalPacket Unit .createChannel
    if name.isBlank then .answer refusal w
    else
      match Gateway.insertChannel w.store name server with
      | (.error _, store) => .answer refusal { w with store := store }
      | (.ok _, store) =>
        .answer (responsePacket .createChannel .success ()) { w with store := store }

/-- What a handler does. -/
def run (handler : Handler) (server : ServerId) (request : Request) (w : World σ) : Handled σ :=
  match handler with
  | join => runJoin server request w
  | serverInfo => runChannelList .serverInfo server w
  | openChannel => runOpenChannel server request w
  | say => runSay server request w
  | membership => runMembership server request w
  | adminMenu => runChannelList .adminMenu server w
  | createChannel => runCreateChannel server request w

end Handler

end ChatHost
