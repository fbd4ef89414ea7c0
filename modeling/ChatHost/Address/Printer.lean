import ChatHost.Address.Basic

/-!
# Writing Addresses

The canonical spelling of an address.

IPv4 addresses are four decimal numbers. IPv6 groups are hexadecimal, in small
letters and without leading zeros; the longest run of at least two zero groups
is written as two colons, the first one if several are equally long. An IPv6
address that maps an IPv4 address shows it in decimal.

## Main definitions

* `longestZeros`: Where the run of zero groups that is left out starts.
* `Ip.toText`, `SocketAddress.toText`: The canonical spelling.
-/

namespace ChatHost

namespace Address

/-- How many zero groups a list starts with. -/
def leadingZeros (groups : List UInt16) : Nat :=
  (groups.takeWhile (· == 0)).length

/-- Start and length of the longest run of zero groups, the first such run. -/
def longestZeros (groups : List UInt16) : Nat × Nat :=
  (List.range groups.length).foldl
    (fun best i =>
      let run := leadingZeros (groups.drop i)
      if best.2 < run then (i, run) else best)
    (0, 0)

/-- One group in hexadecimal. -/
def groupText (g : UInt16) : String :=
  String.ofList (Nat.toDigits 16 g.toNat)

/-- Groups with colons between them. -/
def groupsText (groups : List UInt16) : String :=
  String.intercalate ":" (groups.map groupText)

/-- Four decimal numbers with points between them. -/
def octetsText (octets : List Nat) : String :=
  String.intercalate "." (octets.map Nat.repr)

/-- The canonical spelling of eight groups. -/
def ipv6Text (address : Ipv6Groups) : String :=
  match address.groups with
  | [0, 0, 0, 0, 0, 0xFFFF, high, low] =>
    "::ffff:" ++ octetsText
      [high.toNat / 256, high.toNat % 256, low.toNat / 256, low.toNat % 256]
  | groups =>
    let (start, length) := longestZeros groups
    if 1 < length then
      groupsText (groups.take start) ++ "::" ++ groupsText (groups.drop (start + length))
    else groupsText groups

end Address

/-- The canonical spelling of an IP address. -/
def Ip.toText : Ip → String
  | .v4 ⟨a, b, c, d⟩ => Address.octetsText [a.toNat, b.toNat, c.toNat, d.toNat]
  | .v6 address => Address.ipv6Text address

/-- The canonical spelling of a socket address. -/
def SocketAddress.toText (s : SocketAddress) : String :=
  let port := ":" ++ s.port.toNat.repr
  match s.ip with
  | .v4 _ => s.ip.toText ++ port
  | .v6 _ =>
    let zone := if s.zone = 0 then "" else "%" ++ s.zone.toNat.repr
    "[" ++ s.ip.toText ++ zone ++ "]" ++ port

end ChatHost
