import ChatHost.Wire.Header
import ChatHost.Wire.Payload

/-!
# Packets

A header and a payload. What stands behind a payload that is complete is not
looked at: a packet may be longer than it needs to be.

## Main definitions

* `requestPacket`, `responsePacket`: A header and a payload in bytes.
* `refusalPacket`: The answer to a request that is not granted.
* `decodeResponse`: The header and the payload of an answer.
-/

namespace ChatHost

/-- A header may stand behind a header, as any payload may. -/
instance : Payload RequestHeader where
  encode := RequestHeader.encode
  decode := RequestHeader.decode
  zero := ⟨.join⟩

instance : Payload ResponseHeader where
  encode := ResponseHeader.encode
  decode := ResponseHeader.decode
  zero := ⟨.join, .success⟩

variable {α : Type} [Payload α]

/-- A request of some kind in bytes. -/
def requestPacket (kind : RequestKind) (payload : α) : Bytes :=
  RequestHeader.encode ⟨kind⟩ ++ Payload.encode payload

/-- An answer to a request of some kind in bytes. -/
def responsePacket (kind : RequestKind) (status : Status) (payload : α) : Bytes :=
  ResponseHeader.encode ⟨kind, status⟩ ++ Payload.encode payload

/-- The answer to a request of some kind that is not granted, in bytes. -/
def refusalPacket (α : Type) [Payload α] (kind : RequestKind) : Bytes :=
  responsePacket kind .fail (Payload.zero : α)

/-- Reads the header and the payload of an answer. -/
def responseDecoder (α : Type) [Payload α] : Decoder (ResponseHeader × α) := do
  let header ← ResponseHeader.decode
  let payload ← Payload.decode
  return (header, payload)

/-- The header and the payload that an answer starts with. -/
def decodeResponse (α : Type) [Payload α] (bs : Bytes) :
    Except DecodeError (ResponseHeader × α) :=
  (responseDecoder α).value bs

end ChatHost
