import ChatHost.Bytes

/-!
# Base64 for Addresses

Bytes as text in the alphabet of Base64 that needs no escaping in addresses:
letters, digits, hyphen and underscore.

Three bytes are four characters of six bits each, the highest first. One or two
bytes at the end are two or three characters, and there is no padding behind
them. The bits of the last character that stand for no byte are zero, and the
reader insists on that, so that every byte string has one spelling.

## Main definitions

* `Base64.encode`: The characters of some bytes.
* `Base64.decode?`: The bytes that some characters spell.
-/

namespace ChatHost

namespace Base64

/-- The character for six bits. -/
def symbol (n : Nat) : Char :=
  if n < 26 then Char.ofNat (65 + n)
  else if n < 52 then Char.ofNat (71 + n)
  else if n < 62 then Char.ofNat (n - 4)
  else if n = 62 then '-'
  else '_'

/-- The six bits that a character stands for. -/
def value? (c : Char) : Option Nat :=
  let n := c.toNat
  if 65 ≤ n && n ≤ 90 then some (n - 65)
  else if 97 ≤ n && n ≤ 122 then some (n - 71)
  else if 48 ≤ n && n ≤ 57 then some (n + 4)
  else if c = '-' then some 62
  else if c = '_' then some 63
  else none

/-- The characters of some bytes. -/
def encode : Bytes → List Char
  | [] => []
  | [a] => [symbol (a.toNat / 4), symbol (a.toNat % 4 * 16)]
  | [a, b] =>
    [symbol (a.toNat / 4), symbol (a.toNat % 4 * 16 + b.toNat / 16), symbol (b.toNat % 16 * 4)]
  | a :: b :: c :: rest =>
    symbol (a.toNat / 4) :: symbol (a.toNat % 4 * 16 + b.toNat / 16) ::
      symbol (b.toNat % 16 * 4 + c.toNat / 64) :: symbol (c.toNat % 64) :: encode rest

/-- The bytes that some characters spell. A single character at the end spells
    nothing, and bits that stand for no byte must be zero. -/
def decode? : List Char → Option Bytes
  | [] => some []
  | [_] => none
  | [p, q] => do
    let x ← value? p
    let y ← value? q
    -- Four of the twelve bits stand for no byte.
    if y % 16 = 0 then some [UInt8.ofNat (x * 4 + y / 16)] else none
  | [p, q, r] => do
    let x ← value? p
    let y ← value? q
    let z ← value? r
    -- Two of the eighteen bits stand for no byte.
    if z % 4 = 0 then
      some [UInt8.ofNat (x * 4 + y / 16), UInt8.ofNat (y % 16 * 16 + z / 4)]
    else none
  | p :: q :: r :: s :: rest => do
    let x ← value? p
    let y ← value? q
    let z ← value? r
    let w ← value? s
    let bytes ← decode? rest
    return UInt8.ofNat (x * 4 + y / 16) :: UInt8.ofNat (y % 16 * 16 + z / 4) ::
      UInt8.ofNat (z % 4 * 64 + w) :: bytes

end Base64

end ChatHost
