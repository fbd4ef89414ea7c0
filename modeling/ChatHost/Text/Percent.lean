import ChatHost.Text.Utf8

/-!
# Percent Signs

A percent sign and two hexadecimal digits spell a byte in an address, so that
an address can hold what has a meaning of its own there. A percent sign without
two such digits behind it stands for itself.

## Main definitions

* `percentDecode`: The bytes that are meant.
* `percentBytes`: The bytes that a part of an address stands for.
-/

namespace ChatHost

namespace Text

/-- The value of a hexadecimal digit. -/
def hexValue? (c : UInt8) : Option UInt8 :=
  if 48 ≤ c && c ≤ 57 then some (c - 48)
  else if 97 ≤ c && c ≤ 102 then some (c - 87)
  else if 65 ≤ c && c ≤ 70 then some (c - 55)
  else none

/-- Bytes with each percent sign and the two hexadecimal digits behind it
    replaced by the byte that they spell. -/
def percentDecode : Bytes → Bytes
  | 37 :: high :: low :: rest =>
    match hexValue? high, hexValue? low with
    | some h, some l => (h * 16 + l) :: percentDecode rest
    | _, _ => 37 :: percentDecode (high :: low :: rest)
  | c :: rest => c :: percentDecode rest
  | [] => []
termination_by bs => bs.length

/-- The bytes that a part of an address stands for. -/
def percentBytes (cs : List Char) : Bytes :=
  percentDecode (utf8Encode (String.ofList cs))

end Text

end ChatHost
