import ChatHost.Record
import ChatHost.Wire.Decoder

/-!
# Payloads

What stands behind the header of a packet, kind by kind, and its bytes.

A name fills a field of fixed size with zeros behind it. A text is announced by
its length, and the length counts the NUL that ends it. A list is announced by
its count. A count or length that four bytes cannot hold is written as the
largest that they can.

A request that is refused is answered with the zero of its payload: no rows, no
rights, nothing.

## Main definitions

* `Payload`: A type with an encoder, a decoder and a zero.
* `JoinRequest`, `OpenRequest`, `SayRequest`, `CreateRequest`: Requests.
* `MessageRow`, `Membership`: What answers are made of, beside channels.
-/

namespace ChatHost

/-- The largest number in a field of four bytes. -/
def maxCount : Nat := 0xFFFFFFFF

/-- A count as it is announced. -/
def wireCount (n : Nat) : Nat := min n maxCount

/-- The length that a text is announced with, its final NUL included. -/
def textLength (s : String) : Nat := wireCount (s.utf8ByteSize + 1)

/-- The bytes of a text and its final NUL. -/
def textField (s : String) : Bytes := Text.utf8Encode s ++ [0]

/-- The bytes of a name, filled up with zeros. -/
def nameField (name : Name) : Bytes :=
  Text.utf8Encode name.text ++ List.replicate (Name.capacity - name.size) 0

/-- A type of packet payload. -/
class Payload (α : Type) where
  /-- The bytes of a payload. -/
  encode : α → Bytes
  /-- Reads a payload. -/
  decode : Decoder α
  /-- The payload of a refusal. -/
  zero : α

/-- Asks to become a user of this name. -/
structure JoinRequest where
  username : Name
  deriving DecidableEq

instance : Payload JoinRequest where
  encode request := nameField request.username
  decode := do
    let username ← Decoder.name
    return ⟨username⟩
  zero := ⟨.empty⟩

/-- Opens a channel. -/
structure OpenRequest where
  channel : ChannelId
  deriving DecidableEq

instance : Payload OpenRequest where
  encode request := leBytes 4 request.channel.toNat
  decode := do
    let channel ← Decoder.u32
    return ⟨channel⟩
  zero := ⟨0⟩

/-- Says something in a channel. -/
structure SayRequest where
  channel : ChannelId
  text : String
  deriving DecidableEq

instance : Payload SayRequest where
  encode request :=
    leBytes 4 (textLength request.text) ++ leBytes 4 request.channel.toNat ++
      textField request.text
  decode := do
    let length ← Decoder.u32
    let channel ← Decoder.u32
    let text ← Decoder.text length.toNat
    return ⟨channel, text⟩
  zero := ⟨0, ""⟩

/-- Makes a channel of this name. -/
structure CreateRequest where
  name : Name
  deriving DecidableEq

instance : Payload CreateRequest where
  encode request := nameField request.name
  decode := do
    let name ← Decoder.name
    return ⟨name⟩
  zero := ⟨.empty⟩

/-- A channel is two numbers around its name, and two bytes that fill the row
    up to a whole number of words. -/
instance : Payload Channel where
  encode channel :=
    leBytes 4 channel.id.toNat ++ nameField channel.name ++
      leBytes 2 channel.server.toNat ++ [0, 0]
  decode := do
    let id ← Decoder.u32
    let name ← Decoder.name
    let server ← Decoder.u16
    Decoder.skip 2
    return ⟨id, name, server⟩
  zero := ⟨0, .empty, 0⟩

/-- A message as it is shown to the viewers of its channel. -/
structure MessageRow where
  id : MessageId
  sender : UserId
  senderName : Name
  text : String
  deriving DecidableEq

/-- The row of a stored message. -/
def Message.row (message : Message) : MessageRow :=
  ⟨message.id, message.sender, message.senderName, message.text⟩

/-- How many bytes the row of a message with a given text has. -/
def MessageRow.size (text : String) : Nat := 12 + (text.utf8ByteSize + 1) + Name.capacity

instance : Payload MessageRow where
  encode row :=
    leBytes 4 row.id.toNat ++ leBytes 4 row.sender.toNat ++
      leBytes 4 (textLength row.text) ++ textField row.text ++ nameField row.senderName
  decode := do
    let id ← Decoder.u32
    let sender ← Decoder.u32
    let length ← Decoder.u32
    let text ← Decoder.text length.toNat
    let senderName ← Decoder.name
    return ⟨id, sender, senderName, text⟩
  zero := ⟨0, 0, .empty, ""⟩

/-- A list is its count and its items, one after the other. -/
instance {α : Type} [Payload α] : Payload (List α) where
  encode items := leBytes 4 (wireCount items.length) ++ items.flatMap Payload.encode
  decode := do
    let count ← Decoder.u32
    Decoder.rows Payload.decode count.toNat
  zero := []

/-- Whether a user is an administrator; any byte but zero says so. -/
structure Membership where
  admin : Bool
  deriving DecidableEq

instance : Payload Membership where
  encode membership := [if membership.admin then 1 else 0]
  decode := do
    let flag ← Decoder.u8
    return ⟨flag != 0⟩
  zero := ⟨false⟩

/-- Nothing behind the header. -/
instance : Payload Unit where
  encode _ := []
  decode := pure ()
  zero := ()

end ChatHost
