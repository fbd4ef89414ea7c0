import ChatHost.Address.Basic
import ChatHost.Link.Frame

/-!
# Networks

What carries datagrams, and what it refuses.

A network takes a datagram or says at once why it does not. What it has taken
it may still lose; nobody is told. A host without a route can open its sockets
but reach nobody, not even itself.

## Main definitions

* `Datagram`: Bytes on their way from one address to another.
* `Network`: What is refused, and why.
* `Network.sendAll`: Sends the frames of one packet.
-/

namespace ChatHost

/-- Bytes on their way from one address to another. -/
structure Datagram where
  source : SocketAddress
  target : SocketAddress
  bytes : Bytes
  deriving DecidableEq

/-- What carries datagrams. -/
structure Network where
  /-- Why a datagram is refused, if it is. -/
  refusal : Datagram → Option String

namespace Network

/-- The length field of a datagram has sixteen bits. -/
def maxLength : Nat := 65535

/-- Why a socket cannot be opened at an address that another has. -/
def addressInUse : String := "Address already in use (os error 98)"

/-- The refusal of a datagram that is too long, on any network. -/
def tooLong : String := "Message too long (os error 90)"

/-- The refusal of a network that leads nowhere. -/
def unreachable : String := "Network is unreachable (os error 101)"

/-- A network that takes every datagram that can be written down. -/
def routed : Network where
  refusal datagram := if maxLength < datagram.bytes.length then some tooLong else none

/-- A network that leads nowhere. The length of a datagram is judged before its way. -/
def unrouted : Network where
  refusal datagram :=
    some (if maxLength < datagram.bytes.length then tooLong else unreachable)

/-- Sends one datagram. -/
def send (network : Network) (datagram : Datagram) : Except LinkError Unit :=
  match network.refusal datagram with
  | some reason => .error (.io reason)
  | none => .ok ()

/-- Sends the frames of one packet in order until one is refused, and lists the
    datagrams that went out. -/
def sendAll (network : Network) (source target : SocketAddress) :
    List Frame → Except LinkError Unit × List Datagram
  | [] => (.ok (), [])
  | frame :: rest =>
    let datagram : Datagram := ⟨source, target, frame.encode⟩
    match network.send datagram with
    | .error error => (.error error, [])
    | .ok () =>
      let (result, sent) := sendAll network source target rest
      (result, datagram :: sent)

end Network

end ChatHost
