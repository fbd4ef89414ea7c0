import ChatHost.Record

/-!
# Stores

What a hosted server asks of the store that keeps its records.

A store is a value. Queries leave it as it is; the operations that may change
it return it beside their result. Either may fail with a fault, and a server
handles the faults of all stores alike, so that it does not know which kind of
store it runs on.

An operation is also a piece of data, `StoreRequest`, so that histories of a
store can be spoken of.

## Main definitions

* `Gateway`: The nine operations of a store.
* `StoreMethod`: Their names.
* `StoreRequest`, `StoreAnswer`: An operation with its arguments, and a result.
* `StoreRequest.run`, `StoreRequest.runAll`: Does operations.
* `Breakable`: A store some of whose operations fail.
-/

namespace ChatHost

/-- The operations of a store. -/
class Gateway (σ : Type) where
  /-- The hosted servers, or the one with a given id. -/
  selectServers : σ → Option ServerId → Except Fault (List ServerId)
  /-- The users that a query wants, by ascending id. -/
  selectUsers : σ → UserFilter → Except Fault (List UserRecord)
  /-- The channels that a query wants, by ascending id. -/
  selectChannels : σ → ChannelFilter → Except Fault (List Channel)
  /-- The messages that a query wants, by ascending id. -/
  selectMessages : σ → MessageFilter → Except Fault (List Message)
  /-- Adds a hosted server. -/
  insertServer : σ → ServerId → Except Fault ServerId × σ
  /-- Adds a member to a server. -/
  insertUser : σ → ServerId → Ip → Name → Except Fault UserRecord × σ
  /-- Adds a channel to a server. -/
  insertChannel : σ → Name → ServerId → Except Fault Channel × σ
  /-- Adds a message to a channel. -/
  insertMessage : σ → String → ChannelId → UserId → Except Fault Receipt × σ
  /-- Gives a role to every user of a name on a server; says if there is one. -/
  updateRole : σ → ServerId → String → Role → Except Fault Bool × σ

/-- The names of the operations. -/
inductive StoreMethod
  | selectServers
  | selectUsers
  | selectChannels
  | selectMessages
  | insertServer
  | insertUser
  | insertChannel
  | insertMessage
  | updateRole
  deriving DecidableEq

namespace StoreMethod

/-- Every operation. -/
def all : List StoreMethod :=
  [selectServers, selectUsers, selectChannels, selectMessages, insertServer, insertUser,
    insertChannel, insertMessage, updateRole]

/-- The name of an operation as a text. -/
def text : StoreMethod → String
  | selectServers => "select_servers"
  | selectUsers => "select_users"
  | selectChannels => "select_channels"
  | selectMessages => "select_messages"
  | insertServer => "insert_server"
  | insertUser => "insert_user"
  | insertChannel => "insert_channel"
  | insertMessage => "insert_message"
  | updateRole => "update_role"

/-- The operation with a given name. -/
def ofText? (s : String) : Option StoreMethod := all.find? fun method => method.text = s

/-- What an operation that is broken fails with. -/
def broken (method : StoreMethod) : Fault := .storage (method.text ++ " is broken")

end StoreMethod

/-- An operation with its arguments. -/
inductive StoreRequest
  | selectServers (id : Option ServerId)
  | selectUsers (filter : UserFilter)
  | selectChannels (filter : ChannelFilter)
  | selectMessages (filter : MessageFilter)
  | insertServer (id : ServerId)
  | insertUser (server : ServerId) (ip : Ip) (username : Name)
  | insertChannel (name : Name) (server : ServerId)
  | insertMessage (text : String) (channel : ChannelId) (sender : UserId)
  | updateRole (server : ServerId) (username : String) (role : Role)

/-- The result of an operation. -/
inductive StoreAnswer
  | servers (ids : List ServerId)
  | users (records : List UserRecord)
  | channels (records : List Channel)
  | messages (records : List Message)
  | server (id : ServerId)
  | user (record : UserRecord)
  | channel (record : Channel)
  | receipt (receipt : Receipt)
  | updated (found : Bool)
  deriving DecidableEq

/-- The result of an operation as an answer, and the store after it. -/
def answered {α σ : Type} (wrap : α → StoreAnswer) (result : Except Fault α × σ) :
    Except Fault StoreAnswer × σ :=
  (result.1.map wrap, result.2)

/-- Does an operation. -/
def StoreRequest.run {σ : Type} [Gateway σ] (s : σ) : StoreRequest → Except Fault StoreAnswer × σ
  | selectServers id => ((Gateway.selectServers s id).map .servers, s)
  | selectUsers filter => ((Gateway.selectUsers s filter).map .users, s)
  | selectChannels filter => ((Gateway.selectChannels s filter).map .channels, s)
  | selectMessages filter => ((Gateway.selectMessages s filter).map .messages, s)
  | insertServer id => answered .server (Gateway.insertServer s id)
  | insertUser server ip username =>
    answered .user (Gateway.insertUser s server ip username)
  | insertChannel name server => answered .channel (Gateway.insertChannel s name server)
  | insertMessage text channel sender =>
    answered .receipt (Gateway.insertMessage s text channel sender)
  | updateRole server username role =>
    answered .updated (Gateway.updateRole s server username role)

/-- A store after some operations, one after the other. -/
def StoreRequest.runAll {σ : Type} [Gateway σ] (s : σ) (calls : List StoreRequest) : σ :=
  calls.foldl (fun s call => (call.run s).2) s

/-- A store some of whose operations fail. An operation that fails does not
    reach the store. -/
structure Breakable (σ : Type) where
  store : σ
  broken : List StoreMethod := []

namespace Breakable

variable {σ : Type}

/-- From now on an operation fails. -/
def breakMethod (b : Breakable σ) (method : StoreMethod) : Breakable σ :=
  { b with broken := method :: b.broken }

/-- From now on nothing fails. -/
def repair (b : Breakable σ) : Breakable σ := { b with broken := [] }

/-- Asks the store, unless the operation fails. -/
def query {α : Type} (b : Breakable σ) (method : StoreMethod)
    (ask : σ → Except Fault α) : Except Fault α :=
  if method ∈ b.broken then .error method.broken else ask b.store

/-- Changes the store, unless the operation fails. -/
def change {α : Type} (b : Breakable σ) (method : StoreMethod)
    (act : σ → Except Fault α × σ) : Except Fault α × Breakable σ :=
  if method ∈ b.broken then (.error method.broken, b)
  else
    let (result, store) := act b.store
    (result, { b with store := store })

end Breakable

instance {σ : Type} [Gateway σ] : Gateway (Breakable σ) where
  selectServers b id := b.query .selectServers (Gateway.selectServers · id)
  selectUsers b filter := b.query .selectUsers (Gateway.selectUsers · filter)
  selectChannels b filter := b.query .selectChannels (Gateway.selectChannels · filter)
  selectMessages b filter := b.query .selectMessages (Gateway.selectMessages · filter)
  insertServer b id := b.change .insertServer (Gateway.insertServer · id)
  insertUser b server ip username :=
    b.change .insertUser (Gateway.insertUser · server ip username)
  insertChannel b name server := b.change .insertChannel (Gateway.insertChannel · name server)
  insertMessage b text channel sender :=
    b.change .insertMessage (Gateway.insertMessage · text channel sender)
  updateRole b server username role :=
    b.change .updateRole (Gateway.updateRole · server username role)

end ChatHost
