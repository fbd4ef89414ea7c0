import ChatHost.Store.Gateway
import ChatHost.Store.Row

/-!
# The Store in Tables

A store that keeps its records in the tables of a relational database, under a
schema that enforces keys and references by itself.

A statement is checked against the schema in a fixed order. It first needs an
id: one more than the largest that the table ever held, also if that row is
gone, and there is none after the largest number of a column. Then the row must
not repeat a key, and last its references must lead somewhere. A statement that
is refused leaves nothing behind.

The ids of columns have 64 bits and those of records 32, so a row can be added
whose id no record can have. Its insertion is reported as a fault, and the row
stays.

Queries select rows, compare columns as numbers and bytes, and then turn every
row into its record. One row that is no record fails the whole query.

The database is taken to have room: for any number of rows, and for texts of
any length. A real one refuses values of more than 1,000,000,000 bytes unless it
is set up otherwise; no frame carries a text that long.

## Main definitions

* `Table`: Rows in ascending order of ids, and the largest id ever held.
* `TableStore`: The four tables.
* `TableStore.addUser`, …: Rows added with an id of their own.
-/

namespace ChatHost

/-- Rows in ascending order of ids. -/
structure Table (ρ : Type) where
  rows : List ρ := []
  /-- The largest id that the table ever held, and at least zero. -/
  last : Int := 0

namespace Table

variable {ρ : Type}

/-- What the database says when a table has no ids left. -/
def full : Fault :=
  .storage "error returned from database: (code: 13) database or disk is full"

/-- The id of the next row. -/
def nextId (t : Table ρ) : Except Fault Int :=
  if t.last < Row.maxInteger then .ok (t.last + 1) else .error full

/-- Puts a row into a list that ascends by `key`. -/
def insertRow (key : ρ → Int) (row : ρ) : List ρ → List ρ
  | [] => [row]
  | other :: rest =>
    if key row < key other then row :: other :: rest else other :: insertRow key row rest

/-- Adds a row. -/
def insert (t : Table ρ) (key : ρ → Int) (row : ρ) : Table ρ :=
  { rows := insertRow key row t.rows, last := max t.last (key row) }

/-- Whether a row satisfies a condition. -/
def has (t : Table ρ) (p : ρ → Bool) : Bool := t.rows.any p

/-- The records of the rows that satisfy a condition. -/
def select {α : Type} (t : Table ρ) (p : ρ → Bool) (record : ρ → Except Fault α) :
    Except Fault (List α) :=
  (t.rows.filter p).mapM record

end Table

/-- Why the schema refuses a row. -/
inductive SchemaViolation
  /-- A key is there already. -/
  | key
  /-- A reference leads nowhere. -/
  | reference
  deriving DecidableEq

/-- The tables of a relational database. -/
structure TableStore where
  servers : List Int := []
  users : Table Row.User := {}
  channels : Table Row.Channel := {}
  messages : Table Row.Message := {}

namespace TableStore

/-- The tables without rows. -/
def empty : TableStore := {}

/-- Puts a number into an ascending list. -/
def insertAscending (id : Int) : List Int → List Int
  | [] => [id]
  | other :: rest =>
    if id < other then id :: other :: rest else other :: insertAscending id rest

/-- Adds a row to the table of servers. -/
def addServer (s : TableStore) (id : Int) : Except SchemaViolation TableStore :=
  if id ∈ s.servers then .error .key
  else .ok { s with servers := insertAscending id s.servers }

/-- Adds a row to the table of users. The id is a key, and so is the address
    on its server. -/
def addUser (s : TableStore) (row : Row.User) : Except SchemaViolation TableStore :=
  if s.users.has fun other =>
      decide (other.id = row.id) || decide (other.server = row.server ∧ other.ip = row.ip) then
    .error .key
  else if row.server ∉ s.servers then .error .reference
  else .ok { s with users := s.users.insert (·.id) row }

/-- Adds a row to the table of channels. -/
def addChannel (s : TableStore) (row : Row.Channel) : Except SchemaViolation TableStore :=
  if s.channels.has fun other => decide (other.id = row.id) then .error .key
  else if row.server ∉ s.servers then .error .reference
  else .ok { s with channels := s.channels.insert (·.id) row }

/-- Adds a row to the table of messages. -/
def addMessage (s : TableStore) (row : Row.Message) : Except SchemaViolation TableStore :=
  if s.messages.has fun other => decide (other.id = row.id) then .error .key
  else if !(s.channels.has fun c => decide (c.id = row.channel)) ||
      !(s.users.has fun u => decide (u.id = row.sender)) then .error .reference
  else .ok { s with messages := s.messages.insert (·.id) row }

/-- Whether a column has the wanted value, if one is wanted. -/
def columnIs {α : Type} [DecidableEq α] (wanted : Option α) (value : α) : Bool :=
  match wanted with
  | none => true
  | some w => decide (value = w)

/-- The ids of hosted servers. -/
def selectServers (s : TableStore) (id : Option ServerId) : Except Fault (List ServerId) :=
  let wanted := id.map fun (n : ServerId) => (n.toNat : Int)
  (s.servers.filter (columnIs wanted)).mapM Row.server

/-- Users by the columns that the filter sets; the address is compared in its
    canonical spelling. -/
def selectUsers (s : TableStore) (filter : UserFilter) : Except Fault (List UserRecord) :=
  let server := filter.server.map fun (n : ServerId) => (n.toNat : Int)
  let role := filter.role.map Role.code
  let ip := filter.ip.map Ip.toText
  s.users.select
    (fun row => columnIs server row.server && columnIs role row.role &&
      columnIs filter.username row.username && columnIs ip row.ip)
    Row.User.record

/-- Channels by the columns that the filter sets. -/
def selectChannels (s : TableStore) (filter : ChannelFilter) : Except Fault (List Channel) :=
  let id := filter.id.map fun (n : ChannelId) => (n.toNat : Int)
  let server := filter.server.map fun (n : ServerId) => (n.toNat : Int)
  s.channels.select
    (fun row => columnIs id row.id && columnIs filter.name row.name &&
      columnIs server row.server)
    Row.Channel.record

/-- Messages by the columns that the filter sets. -/
def selectMessages (s : TableStore) (filter : MessageFilter) : Except Fault (List Message) :=
  let id := filter.id.map fun (n : MessageId) => (n.toNat : Int)
  let sender := filter.sender.map fun (n : UserId) => (n.toNat : Int)
  let channel := filter.channel.map fun (n : ChannelId) => (n.toNat : Int)
  s.messages.select
    (fun row => columnIs id row.id && columnIs filter.text row.text &&
      columnIs sender row.sender && columnIs channel row.channel)
    Row.Message.record

/-- Adds a hosted server. -/
def insertServer (s : TableStore) (id : ServerId) : Except Fault ServerId × TableStore :=
  match s.addServer id.toNat with
  | .error _ => (.error (.serverExists id), s)
  | .ok s => (.ok id, s)

/-- Adds a member to a server. -/
def insertUser (s : TableStore) (server : ServerId) (ip : Ip) (username : Name) :
    Except Fault UserRecord × TableStore :=
  -- The id comes first, so a table without ids reports that and nothing else.
  match s.users.nextId with
  | .error fault => (.error fault, s)
  | .ok id =>
    let row : Row.User :=
      { id, server := server.toNat, ip := ip.toText, username := username.text,
        role := Role.member.code }
    match s.addUser row with
    | .error .key => (.error (.alreadyJoined ip), s)
    | .error .reference => (.error (.unknownServer server), s)
    | .ok s =>
      -- The row is in the table by now, whether or not a record can have its id.
      ((Row.narrow32 "hosted_server_users.id" id).map fun id => { id, server, username, ip }, s)

/-- Adds a channel to a server. -/
def insertChannel (s : TableStore) (name : Name) (server : ServerId) :
    Except Fault Channel × TableStore :=
  match s.channels.nextId with
  | .error fault => (.error fault, s)
  | .ok id =>
    match s.addChannel { id, name := name.text, server := server.toNat } with
    | .error .key => (.error (.invalid ("duplicate channel '" ++ name.text ++ "'")), s)
    | .error .reference => (.error (.unknownServer server), s)
    | .ok s =>
      ((Row.narrow32 "server_chat_channels.id" id).map fun id => { id, name, server }, s)

/-- Adds a message to a channel, with the name that its sender has now. Its text may be of any
    length, where a real database has a limit. -/
def insertMessage (s : TableStore) (text : String) (channel : ChannelId) (sender : UserId) :
    Except Fault Receipt × TableStore :=
  match s.users.rows.find? fun user => decide (user.id = (sender.toNat : Int)) with
  | none => (.error (.unknownUser sender.toNat.repr), s)
  | some user =>
    match Name.ofText user.username, s.messages.nextId with
    | .error fault, _ => (.error fault, s)
    | .ok _, .error fault => (.error fault, s)
    | .ok senderName, .ok id =>
      let row : Row.Message :=
        { id, text, channel := channel.toNat, sender := sender.toNat,
          senderName := senderName.text }
      match s.addMessage row with
      | .error .key => (.error (.internal "channel_messages has no unique keys"), s)
      | .error .reference => (.error (.unknownChannel channel), s)
      | .ok s => ((Row.narrow32 "channel_messages.id" id).map fun id => ⟨id, senderName⟩, s)

/-- Whether a row is that of a name on a server. -/
def goesBy (server : ServerId) (username : String) (row : Row.User) : Bool :=
  decide (row.server = (server.toNat : Int)) && decide (row.username = username)

/-- Gives a role to every user of a name on a server. -/
def updateRole (s : TableStore) (server : ServerId) (username : String) (role : Role) :
    Except Fault Bool × TableStore :=
  let rows := s.users.rows.map fun row =>
    if goesBy server username row then { row with role := role.code } else row
  (.ok (s.users.has (goesBy server username)), { s with users := { s.users with rows } })

instance : Gateway TableStore where
  selectServers := selectServers
  selectUsers := selectUsers
  selectChannels := selectChannels
  selectMessages := selectMessages
  insertServer := insertServer
  insertUser := insertUser
  insertChannel := insertChannel
  insertMessage := insertMessage
  updateRole := updateRole

end TableStore

end ChatHost
