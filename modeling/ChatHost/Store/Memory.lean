import ChatHost.Store.Gateway

/-!
# The Store in Memory

A store that keeps its records in plain lists and is gone with the host.

There is no schema underneath, so each operation checks by itself what its
record refers to and what it must not repeat, and only then takes an id. Ids
count up from one in each list, so a list in order of insertion is in ascending
order of ids.

## Main definitions

* `MemoryStore`: The lists and the last ids given out.
* `MemoryStore.nextId`: The id after the last, as long as there is one.
-/

namespace ChatHost

/-- Records in lists, and the last id given out in each. -/
structure MemoryStore where
  servers : List ServerId := []
  users : List UserRecord := []
  channels : List Channel := []
  messages : List Message := []
  lastUser : UserId := 0
  lastChannel : ChannelId := 0
  lastMessage : MessageId := 0
  deriving DecidableEq

namespace MemoryStore

/-- The store without records. -/
def empty : MemoryStore := {}

/-- The id after the last. -/
def nextId (last : UInt32) : Except Fault UInt32 :=
  if last.toNat + 1 < UInt32.size then .ok (last + 1)
  else .error (.storage "id space exhausted")

/-- Puts an id into an ascending list. -/
def insertAscending (id : ServerId) : List ServerId → List ServerId
  | [] => [id]
  | other :: rest =>
    if id < other then id :: other :: rest else other :: insertAscending id rest

/-- Adds a hosted server. -/
def insertServer (s : MemoryStore) (id : ServerId) : Except Fault ServerId × MemoryStore :=
  if id ∈ s.servers then (.error (.serverExists id), s)
  else (.ok id, { s with servers := insertAscending id s.servers })

/-- Whether a user of a server has joined from an address. -/
def hasJoined (s : MemoryStore) (server : ServerId) (ip : Ip) : Bool :=
  s.users.any fun user => decide (user.server = server) && decide (user.ip = ip)

/-- Adds a member to a server. -/
def insertUser (s : MemoryStore) (server : ServerId) (ip : Ip) (username : Name) :
    Except Fault UserRecord × MemoryStore :=
  if server ∉ s.servers then (.error (.unknownServer server), s)
  else if s.hasJoined server ip then (.error (.alreadyJoined ip), s)
  else
    match nextId s.lastUser with
    | .error fault => (.error fault, s)
    | .ok id =>
      let user : UserRecord := { id, server, username, ip }
      (.ok user, { s with users := s.users ++ [user], lastUser := id })

/-- Adds a channel to a server. -/
def insertChannel (s : MemoryStore) (name : Name) (server : ServerId) :
    Except Fault Channel × MemoryStore :=
  if server ∉ s.servers then (.error (.unknownServer server), s)
  else
    match nextId s.lastChannel with
    | .error fault => (.error fault, s)
    | .ok id =>
      let channel : Channel := { id, name, server }
      (.ok channel, { s with channels := s.channels ++ [channel], lastChannel := id })

/-- Adds a message to a channel. The sender is looked for before the channel. -/
def insertMessage (s : MemoryStore) (text : String) (channel : ChannelId) (sender : UserId) :
    Except Fault Receipt × MemoryStore :=
  match s.users.find? fun user => decide (user.id = sender) with
  | none => (.error (.unknownUser sender.toNat.repr), s)
  | some user =>
    if !s.channels.any fun c => decide (c.id = channel) then
      (.error (.unknownChannel channel), s)
    else
      match nextId s.lastMessage with
      | .error fault => (.error fault, s)
      | .ok id =>
        let receipt : Receipt := ⟨id, user.username⟩
        let message := receipt.message channel sender text
        (.ok receipt, { s with messages := s.messages ++ [message], lastMessage := id })

/-- Whether a user is the one of a name on a server. -/
def goesBy (server : ServerId) (username : String) (user : UserRecord) : Bool :=
  decide (user.server = server) && decide (user.username.text = username)

/-- Gives a role to every user of a name on a server. -/
def updateRole (s : MemoryStore) (server : ServerId) (username : String) (role : Role) :
    Except Fault Bool × MemoryStore :=
  let users := s.users.map fun user =>
    if goesBy server username user then { user with role := role } else user
  (.ok (s.users.any (goesBy server username)), { s with users := users })

instance : Gateway MemoryStore where
  selectServers s id := .ok (s.servers.filter fun server => agrees id server)
  selectUsers s filter := .ok (s.users.filter filter.admits)
  selectChannels s filter := .ok (s.channels.filter filter.admits)
  selectMessages s filter := .ok (s.messages.filter filter.admits)
  insertServer := insertServer
  insertUser := insertUser
  insertChannel := insertChannel
  insertMessage := insertMessage
  updateRole := updateRole

end MemoryStore

end ChatHost
