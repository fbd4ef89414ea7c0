import ChatHost.Address.Basic

/-!
# Reading Addresses

Reads the textual forms of IP addresses and socket addresses, and nothing
around them: a name, a blank or a stray character is no address.

An IPv4 address is four decimal numbers below 256 without leading zeros. An
IPv6 address is eight groups of one to four hexadecimal digits, of which one
run of one or more zero groups may be left out as two colons, and the last two
of which may be written as an IPv4 address. A socket address puts the port
after a colon, and an IPv6 address before it in square brackets, with the zone
behind a percent sign.

Readers take a list of characters and return the value with what is left of
the list. Every reader is greedy and never gives back what it took, so whether
a text is an address does not depend on how far a reader could have gone.

## Main definitions

* `Ip.parse?`: The address that a text spells.
* `SocketAddress.parse?`: The socket address that a text spells.
-/

namespace ChatHost

namespace Address

/-- A reader returns a value and the characters behind it. -/
abbrev Reader (α : Type) := List Char → Option (α × List Char)

/-- The value of a digit in a radix up to sixteen. -/
def digitValue? (radix : Nat) (c : Char) : Option Nat :=
  let n := c.toNat
  let value :=
    if 48 ≤ n && n ≤ 57 then n - 48
    else if 97 ≤ n && n ≤ 102 then n - 87
    else if 65 ≤ n && n ≤ 70 then n - 55
    else radix
  if value < radix then some value else none

/-- Whether a character is a digit of a radix. -/
def isDigitOf (radix : Nat) (c : Char) : Bool :=
  (digitValue? radix c).isSome

/-- The number that a list of digits spells. -/
def numberOf (radix : Nat) (digits : List Char) : Nat :=
  digits.foldl (fun n c => n * radix + (digitValue? radix c).getD 0) 0

/-- Reads all digits that come. There must be one, no more than `most` if that
    is given, no zero in front of others unless `zeros` allows it, and the
    number must not pass the bound. -/
def readNumber (radix : Nat) (most : Option Nat) (zeros : Bool) (bound : Nat) : Reader Nat :=
  fun cs =>
    let digits := cs.takeWhile (isDigitOf radix)
    if digits.isEmpty || most.any (· < digits.length) then none
    else if !zeros && digits.head? == some '0' && 1 < digits.length then none
    else
      let value := numberOf radix digits
      if bound < value then none else some (value, cs.drop digits.length)

/-- Reads one given character. -/
def readChar (c : Char) : Reader Unit
  | d :: rest => if c = d then some ((), rest) else none
  | [] => none

/-- Reads an item that stands behind a separator, unless it is the first. -/
def readNext {α : Type} (separator : Char) (first : Bool) (item : Reader α) : Reader α :=
  fun cs =>
    if first then item cs
    else (readChar separator cs).bind fun (_, rest) => item rest

/-- Reads one of the four numbers of an IPv4 address. -/
def readOctet (first : Bool) : Reader UInt8 := fun cs =>
  (readNext '.' first (readNumber 10 (some 3) false 255) cs).map
    fun (n, rest) => (UInt8.ofNat n, rest)

/-- Reads the four numbers of an IPv4 address. -/
def readIpv4 : Reader Ipv4 := fun cs => do
  let (a, cs) ← readOctet true cs
  let (b, cs) ← readOctet false cs
  let (c, cs) ← readOctet false cs
  let (d, cs) ← readOctet false cs
  return (⟨a, b, c, d⟩, cs)

/-- Two numbers of an IPv4 address as one group of an IPv6 address. -/
def groupOfOctets (high low : UInt8) : UInt16 :=
  UInt16.ofNat (high.toNat * 256 + low.toNat)

/-- Reads as many groups as come, up to `room`. An IPv4 address fills two
    groups and ends the reading; the flag says that one did. -/
def readGroups : (room : Nat) → (first : Bool) → List Char → List UInt16 × Bool × List Char
  | 0, _, cs => ([], false, cs)
  | room + 1, first, cs =>
    -- The last group has no room for an IPv4 address, which would fill two.
    match if room = 0 then none else readNext ':' first readIpv4 cs with
    | some (⟨a, b, c, d⟩, rest) => ([groupOfOctets a b, groupOfOctets c d], true, rest)
    | none =>
      match readNext ':' first (readNumber 16 (some 4) true 0xFFFF) cs with
      | none => ([], false, cs)
      | some (g, rest) =>
        let (groups, embedded, rest) := readGroups room false rest
        (UInt16.ofNat g :: groups, embedded, rest)

/-- Groups before and behind a run of zeros that fills them up to eight. -/
def fillGroups (head tail : List UInt16) : Option Ipv6Groups :=
  let groups := head ++ List.replicate (8 - head.length - tail.length) 0 ++ tail
  if h : groups.length = 8 then some ⟨groups, h⟩ else none

/-- Reads an IPv6 address. With fewer than eight groups two colons must follow,
    standing for at least one group. -/
def readIpv6 : Reader Ipv6Groups := fun cs =>
  let (head, embedded, rest) := readGroups 8 true cs
  if head.length = 8 then (fillGroups head []).map (·, rest)
  else if embedded then none
  else do
    let (_, rest) ← readChar ':' rest
    let (_, rest) ← readChar ':' rest
    -- Seven and not eight: the colons stand for one group at least.
    let (tail, _, rest) := readGroups (7 - head.length) true rest
    let groups ← fillGroups head tail
    return (groups, rest)

/-- Reads an IPv4 address if there is one, else an IPv6 address. -/
def readIp : Reader Ip := fun cs =>
  match readIpv4 cs with
  | some (address, rest) => some (.v4 address, rest)
  | none => (readIpv6 cs).map fun (address, rest) => (.v6 address, rest)

/-- Reads a port behind its colon. -/
def readPort : Reader UInt16 := fun cs => do
  let (_, rest) ← readChar ':' cs
  let (n, rest) ← readNumber 10 none true 0xFFFF rest
  return (UInt16.ofNat n, rest)

/-- Reads a zone behind its percent sign; without one the zone is zero. -/
def readZone (cs : List Char) : UInt32 × List Char :=
  let zone := do
    let (_, rest) ← readChar '%' cs
    let (n, rest) ← readNumber 10 none true 0xFFFFFFFF rest
    return (UInt32.ofNat n, rest)
  zone.getD (0, cs)

/-- Reads a bracketed IPv6 address with its zone and port. -/
def readScoped : Reader SocketAddress := fun cs => do
  let (_, rest) ← readChar '[' cs
  let (address, rest) ← readIpv6 rest
  let (zone, rest) := readZone rest
  let (_, rest) ← readChar ']' rest
  let (port, rest) ← readPort rest
  return (⟨.v6 address, port, zone⟩, rest)

/-- Reads a socket address of either family. -/
def readSocket : Reader SocketAddress := fun cs =>
  let plain := do
    let (address, rest) ← readIpv4 cs
    let (port, rest) ← readPort rest
    return ((⟨.v4 address, port, 0⟩ : SocketAddress), rest)
  plain.orElse fun _ => readScoped cs

/-- The value of a text that a reader reads to its end. -/
def whole? {α : Type} (reader : Reader α) (s : String) : Option α :=
  match reader s.toList with
  | some (value, []) => some value
  | _ => none

end Address

/-- The address that a text spells. -/
def Ip.parse? (s : String) : Option Ip :=
  Address.whole? Address.readIp s

/-- The socket address that a text spells. -/
def SocketAddress.parse? (s : String) : Option SocketAddress :=
  Address.whole? Address.readSocket s

end ChatHost
