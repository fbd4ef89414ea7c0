import ChatHost.Bytes

/-!
# Addresses

IP addresses and the socket addresses of peers.

An address is a value and not a spelling: the parser takes every spelling of an
address to one value, and the printer writes the one canonical spelling, so
equality of addresses is equality of values. An IPv4 address and the IPv6
address that maps it are two addresses.

## Main definitions

* `Ipv4`, `Ipv6Groups`: The addresses of the two families.
* `Ip`: An address of either family.
* `SocketAddress`: An IP address, a port, and the zone of a scoped IPv6 address.
* `Ip.before`, `SocketAddress.before`: The order in which addresses are listed.
-/

namespace ChatHost

/-- The eight groups of an IPv6 address, the most significant first. -/
structure Ipv6Groups where
  groups : List UInt16
  count : groups.length = 8
  deriving DecidableEq

/-- The four numbers of an IPv4 address, the most significant first. -/
structure Ipv4 where
  a : UInt8
  b : UInt8
  c : UInt8
  d : UInt8
  deriving DecidableEq

/-- An IP address. -/
inductive Ip
  | v4 (address : Ipv4)
  | v6 (address : Ipv6Groups)
  deriving DecidableEq

namespace Ip

/-- The address of this machine as seen from itself. -/
def loopback : Ip := .v4 ⟨127, 0, 0, 1⟩

/-- IPv4 addresses are listed before IPv6 addresses, and addresses of one
    family by their bytes; the key compares as lists do. -/
def sortKey : Ip → List Nat
  | .v4 ⟨a, b, c, d⟩ => [4, a.toNat, b.toNat, c.toNat, d.toNat]
  | .v6 address => 6 :: address.groups.map UInt16.toNat

/-- Whether the first address is listed strictly before the second. -/
def before (x y : Ip) : Bool :=
  decide (x.sortKey < y.sortKey)

end Ip

/-- Where a peer can be reached. The zone names a link for IPv6 addresses that
    are valid on one link only, and is zero elsewhere. -/
structure SocketAddress where
  ip : Ip
  port : UInt16
  zone : UInt32 := 0
  deriving DecidableEq

namespace SocketAddress

/-- Socket addresses are listed by address, then port, then zone. -/
def sortKey (s : SocketAddress) : List Nat :=
  s.ip.sortKey ++ [s.port.toNat, s.zone.toNat]

/-- Whether the first socket address is listed strictly before the second. -/
def before (x y : SocketAddress) : Bool :=
  decide (x.sortKey < y.sortKey)

end SocketAddress

end ChatHost
