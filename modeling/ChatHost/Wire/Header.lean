import ChatHost.Wire.Decoder

/-!
# Packet Headers

Every packet starts with the kind of request that it makes or answers; an
answer adds whether the request was granted. Kinds and statuses travel as
numbers of four bytes.

Seven kinds are requests of clients. The other two go the other way: the host
pushes new messages, and asks a silent client whether it is still there.

## Main definitions

* `RequestKind`, `Status`: What stands in a header.
* `RequestHeader`, `ResponseHeader`: The two headers and their bytes.
-/

namespace ChatHost

/-- The kinds of request. -/
inductive RequestKind
  /-- A client wants to become a user of the server. -/
  | join
  /-- A client wants the channels of the server. -/
  | serverInfo
  /-- A client opens a channel and wants its messages. -/
  | openChannel
  /-- A client says something in a channel. -/
  | say
  /-- A client wants to know whether it is an administrator. -/
  | membership
  /-- A client wants the channels for the administrator's view. -/
  | adminMenu
  /-- A client makes a channel. -/
  | createChannel
  /-- The host pushes new messages. -/
  | push
  /-- The host asks whether a client is there. -/
  | heartbeat
  deriving DecidableEq

namespace RequestKind

/-- Every kind, in the order of their numbers. -/
def all : List RequestKind :=
  [join, serverInfo, openChannel, say, membership, adminMenu, createChannel, push, heartbeat]

/-- The number of a kind. -/
def code : RequestKind → UInt32
  | join => 0
  | serverInfo => 1
  | openChannel => 2
  | say => 3
  | membership => 4
  | adminMenu => 5
  | createChannel => 6
  | push => 7
  | heartbeat => 8

/-- The kind with a given number. -/
def ofCode? (n : UInt32) : Option RequestKind :=
  all.find? fun kind => kind.code = n

/-- The name of a kind in the protocol. -/
def text : RequestKind → String
  | join => "JoinServer"
  | serverInfo => "LoadServerInformation"
  | openChannel => "LoadChannelData"
  | say => "SendMessage"
  | membership => "LoadJoinedServerData"
  | adminMenu => "LoadAdminMenuData"
  | createChannel => "CreateNewChannel"
  | push => "PeriodicUpdate"
  | heartbeat => "ClientOnlineCheck"

/-- The kind with a given name. -/
def ofText? (s : String) : Option RequestKind :=
  all.find? fun kind => kind.text = s

/-- Whether a kind is a request of clients. -/
def isFromClient : RequestKind → Bool
  | push | heartbeat => false
  | _ => true

/-- The kinds that clients may ask for. -/
def fromClients : List RequestKind :=
  [join, serverInfo, openChannel, say, membership, adminMenu, createChannel]

@[simp] theorem ofCode?_code (kind : RequestKind) : ofCode? kind.code = some kind := by
  cases kind <;> decide

end RequestKind

/-- Whether a request was granted. -/
inductive Status
  | success
  | fail
  deriving DecidableEq

namespace Status

/-- The number of a status. -/
def code : Status → UInt32
  | success => 0
  | fail => 1

/-- The status with a given number. -/
def ofCode? (n : UInt32) : Option Status :=
  if n = 0 then some success else if n = 1 then some fail else none

/-- The name of a status in the protocol. -/
def text : Status → String
  | success => "Success"
  | fail => "Fail"

/-- The status of an outcome. -/
def ofBool (granted : Bool) : Status := if granted then success else fail

/-- Whether a status is success. -/
def isSuccess : Status → Bool
  | success => true
  | fail => false

@[simp] theorem ofCode?_code (status : Status) : ofCode? status.code = some status := by
  cases status <;> decide

end Status

/-- The header of a request. -/
structure RequestHeader where
  kind : RequestKind
  deriving DecidableEq

/-- The header of an answer or a push. -/
structure ResponseHeader where
  kind : RequestKind
  status : Status
  deriving DecidableEq

/-- The bytes of a request header. -/
def RequestHeader.encode (header : RequestHeader) : Bytes :=
  leBytes 4 header.kind.code.toNat

/-- Reads a request header. -/
def RequestHeader.decode : Decoder RequestHeader := do
  let code ← Decoder.u32
  let kind ← Decoder.ofOption (.unknownKind code) (RequestKind.ofCode? code)
  return ⟨kind⟩

/-- The bytes of a response header. -/
def ResponseHeader.encode (header : ResponseHeader) : Bytes :=
  leBytes 4 header.kind.code.toNat ++ leBytes 4 header.status.code.toNat

/-- Reads a response header. Both numbers are read before either is judged, so
    a packet of fewer than eight bytes is cut off whatever it starts with. -/
def ResponseHeader.decode : Decoder ResponseHeader := do
  let kindCode ← Decoder.u32
  let statusCode ← Decoder.u32
  let kind ← Decoder.ofOption (.unknownKind kindCode) (RequestKind.ofCode? kindCode)
  let status ← Decoder.ofOption (.unknownStatus statusCode) (Status.ofCode? statusCode)
  return ⟨kind, status⟩

end ChatHost
