import ChatHost.Text.Utf8

/-!
# Malformed UTF-8

What is wrong with bytes that are not the encoding of a text, and the text that
they are shown as all the same.

Bytes are read character by character. Where none can be read, the bytes that
could still have become one are a fault together, or else the first byte alone
is one. A fault at the very end may be only a character that was cut off.

## Main definitions

* `Utf8Fault`: Where bytes cannot be read.
* `utf8Fault?`: The first fault in some bytes.
* `utf8Mend`: A text with a replacement character for each fault.
-/

namespace ChatHost

namespace Text

/-- Bytes that are no character. -/
structure Utf8Fault where
  /-- How many bytes before them can be read. -/
  index : Nat
  /-- How many they are; nothing if a character was cut off. -/
  size : Option Nat
  deriving DecidableEq

/-- The wording of a fault. -/
def Utf8Fault.message (fault : Utf8Fault) : String :=
  match fault.size with
  | some size =>
    "invalid utf-8 sequence of " ++ size.repr ++ " bytes from index " ++ fault.index.repr
  | none => "incomplete utf-8 byte sequence from index " ++ fault.index.repr

/-- How many bytes a character has that begins with this one. No character
    begins with a byte that would encode it longer than needed. -/
def utf8Width? (lead : UInt8) : Option Nat :=
  if lead < 0x80 then some 1
  else if lead < 0xC2 then none
  else if lead < 0xE0 then some 2
  else if lead < 0xF0 then some 3
  else if lead < 0xF5 then some 4
  else none

/-- Whether a byte may be the second of a character. Narrower than for later
    bytes where the first one alone does not rule out a character that is
    encoded too long, a surrogate, or one past the last. -/
def utf8Second (lead second : UInt8) : Bool :=
  let low := if lead = 0xE0 then 0xA0 else if lead = 0xF0 then 0x90 else 0x80
  let high := if lead = 0xED then 0x9F else if lead = 0xF4 then 0x8F else 0xBF
  decide (low ≤ second ∧ second ≤ high)

/-- How many bytes of a character of some width are there, the first included. -/
def utf8Begun (width : Nat) (lead : UInt8) : Bytes → Nat
  | [] => 1
  | second :: rest =>
    if width = 1 then 1
    else if utf8Second lead second then
      2 + ((rest.take (width - 2)).takeWhile fun b => decide (0x80 ≤ b ∧ b ≤ 0xBF)).length
    else 1

/-- The first fault, behind `index` bytes that can be read. -/
def utf8FaultFrom (index : Nat) : Bytes → Option Utf8Fault
  | [] => none
  | lead :: rest =>
    match utf8Width? lead with
    | none => some ⟨index, some 1⟩
    | some width =>
      let begun := utf8Begun width lead rest
      if begun = width then utf8FaultFrom (index + width) (rest.drop (width - 1))
      else some ⟨index, if rest.length < begun then none else some begun⟩
termination_by bs => bs.length
decreasing_by
  simp only [List.length_drop, List.length_cons]
  omega

/-- The first fault in some bytes. -/
def utf8Fault? (bs : Bytes) : Option Utf8Fault := utf8FaultFrom 0 bs

/-- A text with a replacement character for each fault, for at most `fuel`
    faults. -/
def utf8MendFuel : Nat → Bytes → String
  | 0, _ => ""
  | fuel + 1, bs =>
    match utf8Fault? bs with
    | none => (utf8Decode? bs).getD ""
    | some fault =>
      let rest := match fault.size with
        | some size => utf8MendFuel fuel (bs.drop (fault.index + size))
        | none => ""
      (utf8Decode? (bs.take fault.index)).getD "" ++ "\ufffd" ++ rest

/-- A text with a replacement character for each fault. Each fault takes a byte
    at least, so there are no more of them than bytes. -/
def utf8Mend (bs : Bytes) : String := utf8MendFuel (bs.length + 1) bs

end Text

end ChatHost
