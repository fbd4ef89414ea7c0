import ChatHost.Address.Parser
import ChatHost.Record

/-!
# Rows

Records as rows of a table, whose columns hold numbers of 64 bits and texts of
any kind.

Every record has a row, but a row that came into the table otherwise need not
be a record: its numbers may be too large, its role unknown, its address no
address, its name too long. The columns are judged in a fixed order, and the
first that is wrong is the fault that is reported.

## Main definitions

* `Row.User`, `Row.Channel`, `Row.Message`: The rows.
* `Row.User.record`, …: The record of a row, or why it is none.
* `Row.User.ofRecord`, …: The row of a record.
* `Row.narrow`: A number of a column as one of fewer bits.
-/

namespace ChatHost

namespace Row

/-- The largest number of a column. -/
def maxInteger : Int := 9223372036854775807

/-- A number of a column, as long as it is not negative nor above a bound. -/
def narrow (column : String) (bound : Nat) (n : Int) : Except Fault Nat :=
  if 0 ≤ n ∧ n ≤ bound then .ok n.toNat
  else .error (.storage (column ++ " out of range: " ++ n.repr))

/-- A number of a column as an id of 32 bits. -/
def narrow32 (column : String) (n : Int) : Except Fault UInt32 :=
  (narrow column 0xFFFFFFFF n).map UInt32.ofNat

/-- A number of a column as a server id. -/
def narrow16 (column : String) (n : Int) : Except Fault UInt16 :=
  (narrow column 0xFFFF n).map UInt16.ofNat

/-- The server id of a row in the table of servers. -/
def server (id : Int) : Except Fault ServerId := narrow16 "hosted_servers.id" id

/-- A row in the table of users. -/
structure User where
  id : Int
  server : Int
  ip : String
  username : String
  role : Int
  deriving DecidableEq

/-- A row in the table of channels. -/
structure Channel where
  id : Int
  name : String
  server : Int
  deriving DecidableEq

/-- A row in the table of messages. -/
structure Message where
  id : Int
  text : String
  channel : Int
  sender : Int
  senderName : String
  deriving DecidableEq

/-- The value of an option, or a fault if there is none. -/
def orFault {α : Type} (fault : Fault) : Option α → Except Fault α
  | some a => .ok a
  | none => .error fault

/-- The user of a row. The address is judged first, then the role, the numbers
    and the name. -/
def User.record (row : User) : Except Fault UserRecord := do
  let ip ← orFault (.storage ("unparsable ip_address '" ++ row.ip ++ "'")) (Ip.parse? row.ip)
  let role ← orFault (.unknownRole row.role.repr) (Role.ofCode? row.role)
  let id ← narrow32 "hosted_server_users.id" row.id
  let server ← narrow16 "hosted_server_users.server_id" row.server
  let username ← Name.ofText row.username
  return { id, server, username, ip, role }

/-- The row of a user. -/
def User.ofRecord (user : UserRecord) : User :=
  { id := user.id.toNat, server := user.server.toNat, ip := user.ip.toText,
    username := user.username.text, role := user.role.code }

/-- The channel of a row: its number, its name, then its server. -/
def Channel.record (row : Channel) : Except Fault ChatHost.Channel := do
  let id ← narrow32 "server_chat_channels.id" row.id
  let name ← Name.ofText row.name
  let server ← narrow16 "server_chat_channels.hosted_server_id" row.server
  return { id, name, server }

/-- The row of a channel. -/
def Channel.ofRecord (channel : ChatHost.Channel) : Channel :=
  { id := channel.id.toNat, name := channel.name.text, server := channel.server.toNat }

/-- The message of a row: its numbers, then the name of its sender. -/
def Message.record (row : Message) : Except Fault ChatHost.Message := do
  let id ← narrow32 "channel_messages.id" row.id
  let channel ← narrow32 "channel_messages.channel_id" row.channel
  let sender ← narrow32 "channel_messages.sender_id" row.sender
  let senderName ← Name.ofText row.senderName
  return { id, channel, sender, senderName, text := row.text }

/-- The row of a message. -/
def Message.ofRecord (message : ChatHost.Message) : Message :=
  { id := message.id.toNat, text := message.text, channel := message.channel.toNat,
    sender := message.sender.toNat, senderName := message.senderName.text }

end Row

end ChatHost
