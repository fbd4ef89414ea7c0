import ChatHost.Name
import ChatHost.Role

/-!
# Records

What a chat host keeps: the servers it hosts, and for each of them its users,
its channels and the messages in them.

A hosted server is no more than its id, which is also the port it listens on.
A user belongs to one server and is known by the IP address they joined from. A
message keeps the name of its sender as it was when the message was stored.

## Main definitions

* `UserRecord`, `Channel`, `Message`: The records.
* `UserFilter`, `ChannelFilter`, `MessageFilter`: Which records a query wants.
* `Receipt`: What the store adds to a message.
-/

namespace ChatHost

/-- The id of a hosted server, which is its port too. -/
abbrev ServerId := UInt16

/-- The id of a user, unique on the host. -/
abbrev UserId := UInt32

/-- The id of a channel, unique on the host. -/
abbrev ChannelId := UInt32

/-- The id of a message, unique on the host. -/
abbrev MessageId := UInt32

/-- A user of one hosted server. -/
structure UserRecord where
  id : UserId
  server : ServerId
  username : Name
  ip : Ip
  role : Role := .member
  deriving DecidableEq

/-- A channel of one hosted server. -/
structure Channel where
  id : ChannelId
  name : Name
  server : ServerId
  deriving DecidableEq

/-- A message in a channel. -/
structure Message where
  id : MessageId
  channel : ChannelId
  sender : UserId
  senderName : Name
  text : String
  deriving DecidableEq

/-- What the store adds to a message that it takes in. -/
structure Receipt where
  id : MessageId
  senderName : Name
  deriving DecidableEq

/-- The stored message, from its receipt and what was handed in. -/
def Receipt.message (receipt : Receipt) (channel : ChannelId) (sender : UserId)
    (text : String) : Message :=
  ⟨receipt.id, channel, sender, receipt.senderName, text⟩

/-- Whether a value is the wanted one, if one is wanted. -/
def agrees {α : Type} [DecidableEq α] (wanted : Option α) (value : α) : Bool :=
  match wanted with
  | none => true
  | some w => decide (w = value)

/-- Which users a query wants: those that agree with every field that is set. -/
structure UserFilter where
  server : Option ServerId := none
  role : Option Role := none
  username : Option String := none
  ip : Option Ip := none

/-- Whether a user is one that the query wants. -/
def UserFilter.admits (filter : UserFilter) (user : UserRecord) : Bool :=
  agrees filter.server user.server && agrees filter.role user.role &&
    agrees filter.username user.username.text && agrees filter.ip user.ip

/-- Which channels a query wants. -/
structure ChannelFilter where
  id : Option ChannelId := none
  name : Option String := none
  server : Option ServerId := none

/-- Whether a channel is one that the query wants. -/
def ChannelFilter.admits (filter : ChannelFilter) (channel : Channel) : Bool :=
  agrees filter.id channel.id && agrees filter.name channel.name.text &&
    agrees filter.server channel.server

/-- Which messages a query wants. -/
structure MessageFilter where
  id : Option MessageId := none
  text : Option String := none
  sender : Option UserId := none
  channel : Option ChannelId := none

/-- Whether a message is one that the query wants. -/
def MessageFilter.admits (filter : MessageFilter) (message : Message) : Bool :=
  agrees filter.id message.id && agrees filter.text message.text &&
    agrees filter.sender message.sender && agrees filter.channel message.channel

end ChatHost
