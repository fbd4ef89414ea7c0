import ChatHost.Address.Printer
import ChatHost.Base64.UrlSafe
import ChatHost.Record
import ChatHost.Text.Blank

/-!
# Invitations

A short text that tells a client where a hosted server is: the IPv4 address of
the host and the id of the server, which is its port. Six bytes, written as
eight characters that survive being pasted into an address or a chat. Blanks
around a pasted code are dropped.

## Main definitions

* `Invitation`: A host and a server.
* `Invitation.code`: The text to hand out.
* `Invitation.ofCode`: The invitation that a text stands for.
-/

namespace ChatHost

/-- Where a hosted server is. -/
structure Invitation where
  host : Ipv4
  server : ServerId
  deriving DecidableEq

/-- Why there is no invitation. -/
inductive InvitationError
  /-- The host has no IPv4 address. -/
  | notIpv4 (host : Ip)
  /-- The text is not Base64. -/
  | notBase64
  /-- The text has too few or too many bytes. -/
  | wrongLength (size : Nat)
  deriving DecidableEq

namespace Invitation

/-- The bytes of an invitation. -/
def size : Nat := 6

/-- The invitation to a server on a host. -/
def forServer (host : Ip) (server : ServerId) : Except InvitationError Invitation :=
  match host with
  | .v4 address => .ok ⟨address, server⟩
  | .v6 _ => .error (.notIpv4 host)

/-- Where a client sends its requests to. -/
def address (invitation : Invitation) : SocketAddress :=
  { ip := .v4 invitation.host, port := invitation.server }

/-- The bytes of an invitation. -/
def bytes (invitation : Invitation) : Bytes :=
  let host := invitation.host
  [host.a, host.b, host.c, host.d] ++ leBytes 2 invitation.server.toNat

/-- The text to hand out. -/
def code (invitation : Invitation) : String :=
  String.ofList (Base64.encode invitation.bytes)

/-- The invitation that a text stands for. -/
def ofCode (s : String) : Except InvitationError Invitation :=
  match Base64.decode? (Text.trim s).toList with
  | none => .error .notBase64
  | some [a, b, c, d, low, high] =>
    .ok ⟨⟨a, b, c, d⟩, UInt16.ofNat (leValue [low, high])⟩
  | some raw => .error (.wrongLength raw.length)

end Invitation

/-- The wording of an error. -/
def InvitationError.message : InvitationError → String
  | notIpv4 host => "Invitation codes only carry IPv4 addresses, got " ++ host.toText
  | notBase64 => "Invitation code is not valid base64"
  | wrongLength size =>
    "Invitation code has " ++ size.repr ++ " bytes, expected " ++ Invitation.size.repr

end ChatHost
